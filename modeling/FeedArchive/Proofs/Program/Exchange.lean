import FeedArchive.Program.Stage
import FeedArchive.Proofs.Program.Run

/-!
# Exchanges

What passes between a program and the world, in order. `Program.Ends` says which exchanges a
program may have, whatever it is answered, and with what result it ends after them; there is one
lemma for each way of putting programs together, which takes the exchanges apart. A world chooses
among them: running a program in it is one way for the program to end (`Program.ends_run`), and the
answers lead from state to state (`World.leads_run`).
-/

namespace FeedArchive

/-- A request with the answer to it. -/
structure Exchange where
  request : Request
  answer : request.Answer

variable {σ α β ε δ : Type}

/-! ## Of a program -/

namespace Program

/-- A program may end with a result after these exchanges. -/
inductive Ends : Program α → List Exchange → α → Prop
  | done (a : α) : Ends (.done a) [] a
  | ask {r : Request} {next : r.Answer → Program α} {answer : r.Answer} {trace : List Exchange}
      {a : α} (h : Ends (next answer) trace a) : Ends (.ask r next) (⟨r, answer⟩ :: trace) a

/-- A program that is followed by another one. -/
theorem Ends.of_bind {p : Program α} {f : α → Program β} {trace : List Exchange} {b : β}
    (h : (p >>= f).Ends trace b) :
    ∃ first rest a, trace = first ++ rest ∧ p.Ends first a ∧ (f a).Ends rest b := by
  -- the first request of the whole is that of the first program, as long as there is one
  induction p generalizing trace with
  | done a => exact ⟨[], trace, a, rfl, .done a, h⟩
  | ask r next ih =>
    obtain ⟨⟩ | @⟨_, _, answer, trace, _, h⟩ := h
    obtain ⟨first, rest, a, rfl, hfirst, hrest⟩ := ih answer h
    exact ⟨⟨r, answer⟩ :: first, rest, a, rfl, .ask hfirst, hrest⟩

/-- A program ends, and then the one that follows it. -/
theorem Ends.bind {p : Program α} {f : α → Program β} {first rest : List Exchange} {a : α} {b : β}
    (h : p.Ends first a) (hf : (f a).Ends rest b) : (p >>= f).Ends (first ++ rest) b := by
  induction h with
  | done a => exact hf
  | ask h ih => exact .ask (ih hf)

/-- A single request. -/
theorem Ends.of_request {r : Request} {trace : List Exchange} {answer : r.Answer}
    (h : (request r).Ends trace answer) : trace = [⟨r, answer⟩] := by
  obtain ⟨⟩ | ⟨⟨⟩⟩ := h
  rfl

end Program

namespace Attempt

/-- An attempt may end with a result or a failure after these exchanges. -/
def Ends (a : Attempt ε α) (trace : List Exchange) (x : Except ε α) : Prop :=
  Program.Ends a.run trace x

variable {trace : List Exchange}

/-- A result that is there already takes no exchange. -/
theorem Ends.of_pure {x : α} {y : Except ε α} (h : (pure x : Attempt ε α).Ends trace y) :
    trace = [] ∧ y = .ok x := by
  obtain ⟨⟩ := h
  exact ⟨rfl, rfl⟩

/-- A failure takes no exchange. -/
theorem Ends.of_throw {e : ε} {y : Except ε α} (h : (throw e : Attempt ε α).Ends trace y) :
    trace = [] ∧ y = .error e := by
  obtain ⟨⟩ := h
  exact ⟨rfl, rfl⟩

/-- A failure ends an attempt; else it goes on from the result. -/
theorem Ends.of_bind {a : Attempt ε α} {f : α → Attempt ε β} {y : Except ε β}
    (h : (a >>= f).Ends trace y) :
    (∃ e, a.Ends trace (.error e) ∧ y = .error e) ∨
      ∃ first rest x, trace = first ++ rest ∧ a.Ends first (.ok x) ∧ (f x).Ends rest y := by
  obtain ⟨first, rest, e | x, rfl, hfirst, hrest⟩ := Program.Ends.of_bind h
  · obtain ⟨rfl, rfl⟩ := Ends.of_throw hrest
    rw [List.append_nil]
    exact Or.inl ⟨e, hfirst, rfl⟩
  · exact Or.inr ⟨first, rest, x, rfl, hfirst, hrest⟩

/-- An attempt that succeeds, with what follows. -/
theorem Ends.bind_ok {a : Attempt ε α} {f : α → Attempt ε β} {first rest : List Exchange} {x : α}
    {y : Except ε β} (h : a.Ends first (.ok x)) (hf : (f x).Ends rest y) :
    (a >>= f).Ends (first ++ rest) y :=
  Program.Ends.bind h hf

/-- An attempt that fails ends what follows too. -/
theorem Ends.bind_error {a : Attempt ε α} {e : ε} (h : a.Ends trace (.error e))
    (f : α → Attempt ε β) : (a >>= f).Ends trace (.error e) := by
  rw [← List.append_nil trace]
  exact Program.Ends.bind h (.done _)

/-- Other words for a failure. -/
theorem Ends.of_mapError {f : ε → δ} {a : Attempt ε α} {y : Except δ α}
    (h : (a.mapError f).Ends trace y) : ∃ x, a.Ends trace x ∧ y = x.mapError f := by
  obtain ⟨first, rest, e | x, rfl, hfirst, hrest⟩ := Program.Ends.of_bind h
  all_goals
    obtain ⟨⟩ := hrest
    rw [List.append_nil]
    exact ⟨_, hfirst, rfl⟩

/-- A result that is made into another one. -/
theorem Ends.of_map {f : α → β} {a : Attempt ε α} {y : Except ε β}
    (h : (f <$> a).Ends trace y) : ∃ x, a.Ends trace x ∧ y = x.map f := by
  obtain ⟨first, rest, e | x, rfl, hfirst, hrest⟩ := Program.Ends.of_bind h
  all_goals
    obtain ⟨⟩ := hrest
    rw [List.append_nil]
    exact ⟨_, hfirst, rfl⟩

/-- A step whose failure is handled. -/
theorem Ends.of_tryCatch {a : Attempt ε α} {handler : ε → Attempt ε α} {y : Except ε α}
    (h : (tryCatch a handler).Ends trace y) :
    (∃ x, a.Ends trace (.ok x) ∧ y = .ok x) ∨
      ∃ first rest e, trace = first ++ rest ∧ a.Ends first (.error e) ∧
        (handler e).Ends rest y := by
  obtain ⟨first, rest, e | x, rfl, hfirst, hrest⟩ := Program.Ends.of_bind h
  · exact Or.inr ⟨first, rest, e, rfl, hfirst, hrest⟩
  · obtain ⟨⟩ := hrest
    rw [List.append_nil]
    exact Or.inl ⟨x, hfirst, rfl⟩

/-- A program that cannot fail, as a step of an attempt. -/
theorem Ends.of_lift {p : Program α} {y : Except ε α}
    (h : (liftM p : Attempt ε α).Ends trace y) : ∃ a, p.Ends trace a ∧ y = .ok a := by
  obtain ⟨first, rest, a, rfl, hfirst, hrest⟩ := Program.Ends.of_bind h
  obtain ⟨⟩ := hrest
  rw [List.append_nil]
  exact ⟨a, hfirst, rfl⟩

/-- A step that cannot fail is followed by others. -/
theorem Ends.of_lift_bind {p : Program α} {f : α → Attempt ε β} {y : Except ε β}
    (h : ((liftM p : Attempt ε α) >>= f).Ends trace y) :
    ∃ first rest a, trace = first ++ rest ∧ p.Ends first a ∧ (f a).Ends rest y := by
  rcases Ends.of_bind h with ⟨e, hp, rfl⟩ | ⟨first, rest, a, rfl, hp, hrest⟩
  · obtain ⟨a, -, heq⟩ := hp.of_lift
    cases heq
  · obtain ⟨a', hp', heq⟩ := hp.of_lift
    obtain rfl := Except.ok.inj heq
    exact ⟨first, rest, a, rfl, hp', hrest⟩

end Attempt

/-- What an attempt comes to, and then the time that it took. -/
theorem ends_timed {a : Attempt StoreError α} {trace : List Exchange} {answer : Timed α}
    (h : a.timed.Ends trace answer) :
    ∃ first, trace = first ++ [⟨.elapsed, answer.latency⟩] ∧ a.Ends first answer.outcome := by
  obtain ⟨first, rest, outcome, rfl, hfirst, hrest⟩ := Program.Ends.of_bind h
  obtain ⟨asked, none, latency, rfl, helapsed, hend⟩ := Program.Ends.of_bind hrest
  obtain rfl := helapsed.of_request
  obtain ⟨⟩ := hend
  exact ⟨first, rfl, hfirst⟩

/-- An answer is given up if it takes longer than is allowed. -/
theorem ends_withDeadline {operation : String} {timeout : Span} {p : Program (Timed α)}
    {trace : List Exchange} {y : Except StoreError α}
    (h : (withDeadline operation timeout p).Ends trace y) :
    ∃ first answer, p.Ends first answer ∧
      (timeout.nanos < answer.latency.nanos ∧
          trace = first ++ [⟨.log (.storeTimedOut operation timeout), ()⟩] ∧
          y = .error (.timeout operation timeout) ∨
        answer.latency.nanos ≤ timeout.nanos ∧ trace = first ∧ y = answer.outcome) := by
  obtain ⟨first, rest, answer, rfl, hfirst, hrest⟩ := Program.Ends.of_bind h
  refine ⟨first, answer, hfirst, ?_⟩
  by_cases hlate : timeout.nanos < answer.latency.nanos
  · rw [if_pos hlate] at hrest
    obtain ⟨log, none, ⟨⟩, rfl, hlog, hend⟩ := Program.Ends.of_bind hrest
    obtain rfl := hlog.of_request
    obtain ⟨⟩ := hend
    exact Or.inl ⟨hlate, rfl, rfl⟩
  · rw [if_neg hlate] at hrest
    obtain ⟨⟩ := hrest
    exact Or.inr ⟨Nat.not_lt.mp hlate, List.append_nil first, rfl⟩

/-! ## With a world -/

/-- The exchanges of a program with a world. -/
def Program.exchanges (world : World σ) : Program α → σ → List Exchange
  | .done _, _ => []
  | .ask r next, s =>
    ⟨r, (world.answer r s).1⟩ ::
      (next (world.answer r s).1).exchanges world (world.answer r s).2

/-- A program passes its exchanges, and then those of the one that follows it. -/
theorem Program.exchanges_bind (world : World σ) (p : Program α) (f : α → Program β) (s : σ) :
    (p >>= f).exchanges world s
      = p.exchanges world s ++ (f (p.run world s).1).exchanges world (p.run world s).2 := by
  induction p generalizing s with
  | done a => rfl
  | ask r next ih => exact congrArg (_ :: ·) (ih _ _)

/-- An attempt that succeeds passes its exchanges, and then those of what follows. -/
theorem Attempt.exchanges_bind_ok {world : World σ} {s t : σ} {a : Attempt ε α} {x : α}
    (h : runIn world s a = (.ok x, t)) (f : α → Attempt ε β) :
    (a >>= f).run.exchanges world s = a.run.exchanges world s ++ (f x).run.exchanges world t := by
  have hrun : a.run.run world s = (.ok x, t) := h
  show Program.exchanges world (ExceptT.run a >>= ExceptT.bindCont f) s = _
  rw [Program.exchanges_bind, hrun]
  rfl

/-- An attempt that fails passes its own exchanges only. -/
theorem Attempt.exchanges_bind_error {world : World σ} {s t : σ} {a : Attempt ε α} {e : ε}
    (h : runIn world s a = (.error e, t)) (f : α → Attempt ε β) :
    (a >>= f).run.exchanges world s = a.run.exchanges world s := by
  have hrun : a.run.run world s = (.error e, t) := h
  show Program.exchanges world (ExceptT.run a >>= ExceptT.bindCont f) s = _
  rw [Program.exchanges_bind, hrun]
  exact List.append_nil _

/-- The answers of a world lead from a state to another one. -/
inductive World.Leads (world : World σ) : σ → List Exchange → σ → Prop
  | refl (s : σ) : Leads world s [] s
  | cons {s t u : σ} {r : Request} {answer : r.Answer} {trace : List Exchange}
      (hanswer : world.answer r s = (answer, t)) (h : Leads world t trace u) :
      Leads world s (⟨r, answer⟩ :: trace) u

variable {world : World σ}

/-- A world lets a program end in one of the ways that are open to it. -/
theorem Program.ends_run (world : World σ) (p : Program α) (s : σ) :
    p.Ends (p.exchanges world s) (p.run world s).1 := by
  induction p generalizing s with
  | done a => exact .done a
  | ask r next ih => exact .ask (ih _ _)

/-- Running a program leads to the state in which it leaves the world. -/
theorem World.leads_run (world : World σ) (p : Program α) (s : σ) :
    world.Leads s (p.exchanges world s) (p.run world s).2 := by
  induction p generalizing s with
  | done a => exact .refl s
  | ask r next ih => exact .cons rfl (ih _ _)

/-- The first answer leads to where the other ones begin. -/
theorem World.Leads.of_cons {r : Request} {answer : r.Answer} {trace : List Exchange} {s u : σ}
    (h : world.Leads s (⟨r, answer⟩ :: trace) u) :
    ∃ t, world.answer r s = (answer, t) ∧ world.Leads t trace u := by
  obtain ⟨⟩ | ⟨hanswer, h⟩ := h
  exact ⟨_, hanswer, h⟩

theorem World.Leads.eq_of_nil {s t : σ} (h : world.Leads s [] t) : t = s := by
  obtain ⟨⟩ := h
  rfl

/-- Exchanges lead on from where those before have led. -/
theorem World.Leads.of_append {first rest : List Exchange} {s u : σ}
    (h : world.Leads s (first ++ rest) u) : ∃ t, world.Leads s first t ∧ world.Leads t rest u := by
  induction first generalizing s with
  | nil => exact ⟨s, .refl s, h⟩
  | cons x first ih =>
    obtain ⟨⟩ | ⟨hanswer, h⟩ := h
    obtain ⟨t, hfirst, hrest⟩ := ih h
    exact ⟨t, .cons hanswer hfirst, hrest⟩

end FeedArchive
