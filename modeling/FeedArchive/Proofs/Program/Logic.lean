import FeedArchive.Program.Basic
import FeedArchive.Search.Store

/-!
# Programs among others

What is true of a program that shares a state with others. Between two of its requests the others
may change the state in ways that the program relies on, and each of its own requests has to keep a
guarantee that the others rely on in turn (`Terms`). `Program.Holds` says that it does so, and that
its result meets a condition, whatever the answers and whatever the others do.

There is one lemma for each way of putting programs together, so that the proof about a program
follows its text.
-/

namespace FeedArchive

/-- On what terms a program runs. -/
structure Terms (σ : Type) where
  /-- An answer that a request may have, and the state it may leave. -/
  serves : σ → (r : Request) → r.Answer → σ → Prop
  /-- What others may do between two requests. -/
  rely : σ → σ → Prop
  /-- What a request has to keep. -/
  guarantee : σ → σ → Prop

variable {σ α β ε δ : Type} {terms : Terms σ}

/-- Others do not make it false. -/
def Terms.Stable (terms : Terms σ) (P : σ → Prop) : Prop :=
  ∀ s t, terms.rely s t → P s → P t

namespace Program

/-- From a state on, a program keeps its guarantee, and ends as a condition says if it ends. -/
def Holds (terms : Terms σ) (Q : α → σ → Prop) : Program α → σ → Prop
  | .done a, s => Q a s
  | .ask r next, s => ∀ t, terms.rely s t → ∀ answer u, terms.serves t r answer u →
      terms.guarantee t u ∧ (next answer).Holds terms Q u

/-- What holds at the end may be weakened. -/
theorem Holds.mono {P Q : α → σ → Prop} {p : Program α} {s : σ} (h : p.Holds terms P s)
    (himp : ∀ a t, P a t → Q a t) : p.Holds terms Q s := by
  induction p generalizing s with
  | done a => exact himp a s h
  | ask r next ih =>
    intro t hrely answer u hserves
    obtain ⟨hguarantee, hnext⟩ := h t hrely answer u hserves
    exact ⟨hguarantee, ih answer hnext⟩

/-- A program followed by another one. -/
theorem Holds.bind {P : α → σ → Prop} {Q : β → σ → Prop} {p : Program α} {f : α → Program β}
    {s : σ} (h : p.Holds terms P s) (hf : ∀ a t, P a t → (f a).Holds terms Q t) :
    (p >>= f).Holds terms Q s := by
  induction p generalizing s with
  | done a => exact hf a s h
  | ask r next ih =>
    intro t hrely answer u hserves
    obtain ⟨hguarantee, hnext⟩ := h t hrely answer u hserves
    exact ⟨hguarantee, ih answer hnext⟩

/-- What others do before a program begins is no different from what they do later. -/
theorem Holds.of_rely {Q : α → σ → Prop} (hQ : ∀ a, terms.Stable (Q a))
    (htrans : ∀ s t u, terms.rely s t → terms.rely t u → terms.rely s u) {p : Program α} {s t : σ}
    (h : p.Holds terms Q s) (hrely : terms.rely s t) : p.Holds terms Q t := by
  cases p with
  | done a => exact hQ a s t hrely h
  | ask r next => exact fun u hu => h u (htrans s t u hrely hu)

/-- A single request. -/
theorem holds_request {r : Request} {Q : r.Answer → σ → Prop} {s : σ}
    (h : ∀ t, terms.rely s t → ∀ answer u, terms.serves t r answer u →
      terms.guarantee t u ∧ Q answer u) : (request r).Holds terms Q s :=
  h

end Program

/-- A result meets one condition, a failure another one. -/
def Meets (Q : α → σ → Prop) (E : σ → Prop) : Except ε α → σ → Prop
  | .ok x, t => Q x t
  | .error _, t => E t

namespace Attempt

/-- The same of an attempt: from a state on, it keeps its guarantee, and ends as one condition says
with a result and as another one says with a failure. -/
def Holds (terms : Terms σ) (Q : α → σ → Prop) (E : σ → Prop) (a : Attempt ε α) (s : σ) : Prop :=
  Program.Holds terms (Meets Q E) a.run s

variable {P Q : α → σ → Prop} {E F : σ → Prop} {a : Attempt ε α} {s : σ}

/-- A result that is there already leaves everything as it is. -/
theorem holds_pure {x : α} (h : Q x s) : (pure x : Attempt ε α).Holds terms Q E s := h

/-- A failure leaves everything as it is. -/
theorem holds_throw {e : ε} (h : E s) : (throw e : Attempt ε α).Holds terms Q E s := h

/-- A result or failure that is there already leaves everything as it is. -/
theorem holds_ofExcept {x : Except ε α} (h : Meets Q E x s) :
    (ofExcept x).Holds terms Q E s := h

/-- What holds at the end may be weakened. -/
theorem Holds.mono (h : a.Holds terms P E s) (hok : ∀ x t, P x t → Q x t)
    (herror : ∀ t, E t → F t) : a.Holds terms Q F s := by
  refine Program.Holds.mono h ?_
  rintro (e | x) t hx
  · exact herror t hx
  · exact hok x t hx

/-- Less is asked of a failure. -/
theorem Holds.mono_error (h : a.Holds terms Q E s) (himp : ∀ t, E t → F t) :
    a.Holds terms Q F s :=
  h.mono (fun _ _ hx => hx) himp

/-- A step that is followed by others if it succeeds. -/
theorem Holds.bind {R : β → σ → Prop} {f : α → Attempt ε β} (h : a.Holds terms P E s)
    (hf : ∀ x t, P x t → (f x).Holds terms R E t) : (a >>= f).Holds terms R E s := by
  refine Program.Holds.bind h ?_
  rintro (e | x) t hx
  · exact hx
  · exact hf x t hx

/-- Other words for a failure. -/
theorem Holds.mapError {f : ε → δ} (h : a.Holds terms Q E s) :
    (a.mapError f).Holds terms Q E s := by
  refine Program.Holds.bind h ?_
  rintro (e | x) t hx
  · exact hx
  · exact hx

/-- A result that is made into another one. -/
theorem Holds.map {R : β → σ → Prop} {f : α → β} (h : a.Holds terms P E s)
    (hf : ∀ x t, P x t → R (f x) t) : (f <$> a).Holds terms R E s := by
  refine Program.Holds.bind h ?_
  rintro (e | x) t hx
  · exact hx
  · exact hf x t hx

/-- A step whose failure is handled. -/
theorem Holds.tryCatch {handler : ε → Attempt ε α} (h : a.Holds terms Q F s)
    (hhandler : ∀ e t, F t → (handler e).Holds terms Q E t) :
    (tryCatch a handler).Holds terms Q E s := by
  refine Program.Holds.bind h ?_
  rintro (e | x) t hx
  · exact hhandler e t hx
  · exact hx

/-- A program that cannot fail, as a step of an attempt. -/
theorem holds_lift {p : Program α} (h : p.Holds terms Q s) :
    (liftM p : Attempt ε α).Holds terms Q E s :=
  Program.Holds.bind h fun _ _ hx => hx

/-- A request whose answer may be a failure. -/
theorem holds_request {p : Program (Except ε α)} {f : ε → δ}
    (h : p.Holds terms (Meets Q E) s) : (Attempt.request f p).Holds terms Q E s :=
  Holds.mapError h

end Attempt

/-- An answer that may come too late. -/
theorem holds_withDeadline {operation : String} {timeout : Span} {p : Program (Timed α)}
    {Q : α → σ → Prop} {E : σ → Prop} {s : σ}
    (h : p.Holds terms (fun x t => Meets Q E x.outcome t ∧
      (Program.log (.storeTimedOut operation timeout)).Holds terms (fun _ => E) t) s) :
    (withDeadline operation timeout p).Holds terms Q E s := by
  refine Program.Holds.bind h fun x t hx => ?_
  by_cases htime : timeout.nanos < x.latency.nanos
  · rw [if_pos htime]
    exact Program.Holds.bind hx.2 fun _ _ hu => hu
  · rw [if_neg htime]
    exact hx.1

namespace Database

variable {E : σ → Prop} {s : σ}

/-- Rows that are asked for and read one by one. -/
theorem holds_fetchAll {statement : Statement} {read : Row → Except Error α}
    {Q : List α → σ → Prop}
    (h : (Program.request (.rows statement)).Holds terms
      (Meets (fun rows t => Meets Q E (rows.mapM read) t) E) s) :
    (fetchAll statement read).Holds terms Q E s :=
  (Attempt.holds_request h).bind fun _ _ hrows => Attempt.holds_ofExcept hrows

/-- What is done in a transaction. A failure before the transaction has begun is not rolled back,
and any other one is. -/
theorem holds_transaction {notBegun notCommitted : Error → ε} {body : Attempt ε α}
    {began failed : σ → Prop} {P Q : α → σ → Prop}
    (hbegin : (send .begin).Holds terms (fun _ => began) E s)
    (hbody : ∀ t, began t → body.Holds terms P failed t)
    (hcommit : ∀ x t, P x t → (send .commit).Holds terms (fun _ => Q x) failed t)
    (hrollback : ∀ t, failed t →
      (Program.request (.control .rollback)).Holds terms (fun _ => E) t) :
    (transaction notBegun notCommitted body).Holds terms Q E s := by
  have hgiveUp : ∀ {γ : Type} {R : γ → σ → Prop} (cause : ε) t, failed t →
      (giveUp cause : Attempt ε γ).Holds terms R E t := fun cause t ht =>
    (Attempt.holds_lift (hrollback t ht)).bind fun _ _ hu => Attempt.holds_throw hu
  refine hbegin.mapError.bind fun _ t ht => ?_
  refine ((hbody t ht).tryCatch hgiveUp).bind fun x u hx => ?_
  refine ((hcommit x u hx).mapError.tryCatch hgiveUp).bind fun _ v hv => ?_
  exact Attempt.holds_pure hv

end Database

end FeedArchive
