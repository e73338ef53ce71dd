import FeedArchive.Proofs.Program.Exchange
import FeedArchive.Table

/-!
# Storing articles

How storing articles in one transaction may go, whatever the database replies. `Articles.Stores`
lists the ways, one for each step that may fail, and `Articles.stores_of_ends` says that there are
no others. All that follows about what is sent, what is counted and what becomes of a table is read
off these ways.
-/

namespace FeedArchive

open Database

namespace Database

variable {ε α : Type} {trace : List Exchange}

/-- A statement that changes something: it fails, or it says whether there was anything to
change. -/
theorem ends_changes {f : Error → ε} {statement : Statement} {y : Except ε Bool}
    (h : Attempt.Ends ((fun rows => decide (0 < rows)) <$> (execute statement).mapError f) trace
      y) :
    (∃ message, trace = [⟨.affected statement, .error message⟩] ∧
        y = .error (f (.reported message))) ∨
      ∃ count, trace = [⟨.affected statement, .ok count⟩] ∧ y = .ok (decide (0 < count)) := by
  obtain ⟨_, hchanges, rfl⟩ := h.of_map
  obtain ⟨_, hexecute, rfl⟩ := hchanges.of_mapError
  obtain ⟨answer, hanswer, rfl⟩ := hexecute.of_mapError
  obtain rfl := Program.Ends.of_request hanswer
  rcases answer with message | count
  · exact Or.inl ⟨message, rfl, rfl⟩
  · exact Or.inr ⟨count, rfl, rfl⟩

/-- A control is sent, and fails or not. -/
theorem ends_send {f : Error → ε} {c : Control} {y : Except ε Unit}
    (h : ((send c).mapError f).Ends trace y) :
    (∃ message, trace = [⟨.control c, .error message⟩] ∧ y = .error (f (.reported message))) ∨
      trace = [⟨.control c, .ok ()⟩] ∧ y = .ok () := by
  obtain ⟨_, hsend, rfl⟩ := h.of_mapError
  obtain ⟨answer, hanswer, rfl⟩ := hsend.of_mapError
  obtain rfl := Program.Ends.of_request hanswer
  rcases answer with message | _
  · exact Or.inl ⟨message, rfl, rfl⟩
  · exact Or.inr ⟨rfl, rfl⟩

/-- A statement is sent, and fails, or each row it returns is read. -/
theorem ends_fetchAll {statement : Statement} {read : Row → Except Error α}
    {y : Except Error (List α)} (h : (fetchAll statement read).Ends trace y) :
    ∃ answer, trace = [⟨.rows statement, answer⟩] ∧
      y = (answer.mapError Error.reported).bind (·.mapM read) := by
  rcases Attempt.Ends.of_bind h with ⟨e, hrows, rfl⟩ | ⟨first, rest, rows, rfl, hrows, hread⟩
  · obtain ⟨answer, hanswer, heq⟩ := hrows.of_mapError
    refine ⟨answer, Program.Ends.of_request hanswer, ?_⟩
    rw [← heq]
    rfl
  · obtain ⟨answer, hanswer, heq⟩ := hrows.of_mapError
    obtain ⟨⟩ := hread
    refine ⟨answer, ?_, ?_⟩
    · rw [List.append_nil]
      exact Program.Ends.of_request hanswer
    · rw [← heq]
      rfl

/-- What is done in a transaction succeeds, or it is followed by a rollback. -/
theorem ends_orGiveUp {a : Attempt ε α} {y : Except ε α}
    (h : (tryCatch a giveUp).Ends trace y) :
    (∃ x, a.Ends trace (.ok x) ∧ y = .ok x) ∨
      ∃ first e answer, trace = first ++ [⟨.control .rollback, answer⟩] ∧
        a.Ends first (.error e) ∧ y = .error e := by
  rcases h.of_tryCatch with hok | ⟨first, rest, e, rfl, hfails, hgiveUp⟩
  · exact Or.inl hok
  · obtain ⟨_, last, answer, rfl, hrollback, hthrow⟩ := Attempt.Ends.of_lift_bind hgiveUp
    obtain rfl := hrollback.of_request
    obtain ⟨rfl, rfl⟩ := hthrow.of_throw
    exact Or.inr ⟨first, e, answer, rfl, hfails, rfl⟩

/-- A transaction is not begun, or it ends with what is done in it and then is committed, or it is
rolled back. -/
theorem ends_transaction {notBegun notCommitted : Error → ε} {body : Attempt ε α} {y : Except ε α}
    (h : (transaction notBegun notCommitted body).Ends trace y) :
    (∃ message, trace = [⟨.control .begin, .error message⟩] ∧
        y = .error (notBegun (.reported message))) ∨
      ∃ inside outside, trace = ⟨.control .begin, .ok ()⟩ :: (inside ++ outside) ∧
        ((∃ e answer, body.Ends inside (.error e) ∧ outside = [⟨.control .rollback, answer⟩] ∧
            y = .error e) ∨
          (∃ x message answer, body.Ends inside (.ok x) ∧
            outside = [⟨.control .commit, .error message⟩, ⟨.control .rollback, answer⟩] ∧
            y = .error (notCommitted (.reported message))) ∨
          ∃ x, body.Ends inside (.ok x) ∧ outside = [⟨.control .commit, .ok ()⟩] ∧ y = .ok x) := by
  rcases Attempt.Ends.of_bind h with ⟨e, hbegin, rfl⟩ | ⟨first, rest, _, rfl, hbegin, hrest⟩
  · obtain ⟨message, rfl, heq⟩ | ⟨-, heq⟩ := ends_send hbegin
    · obtain rfl := Except.error.inj heq
      exact Or.inl ⟨message, rfl, rfl⟩
    · cases heq
  obtain ⟨_, -, heq⟩ | ⟨rfl, -⟩ := ends_send hbegin
  · cases heq
  refine Or.inr ?_
  -- only giving up ends with a failure, be it of the body or of the commit
  rcases Attempt.Ends.of_bind hrest with ⟨e, hbody, rfl⟩ | ⟨inside, rest, x, rfl, hbody, hrest⟩
  · obtain ⟨_, -, heq⟩ | ⟨inside, _, answer, rfl, hfails, heq⟩ := ends_orGiveUp hbody
    · cases heq
    · obtain rfl := Except.error.inj heq
      exact ⟨inside, _, rfl, Or.inl ⟨e, answer, hfails, rfl, rfl⟩⟩
  have hinside : body.Ends inside (.ok x) := by
    obtain ⟨_, hinside, heq⟩ | ⟨_, _, _, -, -, heq⟩ := ends_orGiveUp hbody
    · obtain rfl := Except.ok.inj heq
      exact hinside
    · cases heq
  refine ⟨inside, rest, rfl, Or.inr ?_⟩
  rcases Attempt.Ends.of_bind hrest with ⟨e, hcommit, rfl⟩ | ⟨commit, _, _, rfl, hcommit, hend⟩
  · obtain ⟨_, -, heq⟩ | ⟨_, _, answer, rfl, hfails, heq⟩ := ends_orGiveUp hcommit
    · cases heq
    obtain rfl := Except.error.inj heq
    obtain ⟨message, rfl, heq⟩ | ⟨-, heq⟩ := ends_send hfails
    · obtain rfl := Except.error.inj heq
      exact Or.inl ⟨x, message, answer, hinside, rfl, rfl⟩
    · cases heq
  · obtain ⟨rfl, rfl⟩ := hend.of_pure
    obtain ⟨_, hcommitted, -⟩ | ⟨_, _, _, -, -, heq⟩ := ends_orGiveUp hcommit
    · obtain ⟨_, -, heq⟩ | ⟨rfl, -⟩ := ends_send hcommitted
      · cases heq
      · exact Or.inr ⟨x, hinside, rfl, rfl⟩
    · cases heq

end Database

namespace Articles

/-- Insertions that succeed, and how many of the articles are reported to be new. -/
inductive Inserts : List NewArticle → List Exchange → Nat → Prop
  | nil : Inserts [] [] 0
  | cons {a : NewArticle} {as : List NewArticle} {trace : List Exchange} {n : Nat} (count : Nat)
      (h : Inserts as trace n) :
      Inserts (a :: as) (⟨.affected (insertUnlessPresent a), .ok count⟩ :: trace)
        (n + if 0 < count then 1 else 0)

/-- The ways in which storing articles may go: what passes between the program and the database,
and the number of new articles or the failure that is reported. -/
inductive Stores : List NewArticle → List Exchange → Except Failure Nat → Prop
  | nothing : Stores [] [] (.ok 0)
  | notBegun {as : List NewArticle} (hne : as ≠ []) (message : String) :
      Stores as [⟨.control .begin, .error message⟩]
        (.error (.storage .beginTransaction (.reported message)))
  | notInserted {done rest : List NewArticle} {a : NewArticle} {trace : List Exchange} {n : Nat}
      (hdone : Inserts done trace n) (message : String) (answer : Except String Unit) :
      Stores (done ++ a :: rest)
        (⟨.control .begin, .ok ()⟩ ::
          (trace ++ [⟨.affected (insertUnlessPresent a), .error message⟩,
            ⟨.control .rollback, answer⟩]))
        (.error (.storage (.createArticle a.url) (.reported message)))
  | notCommitted {as : List NewArticle} {trace : List Exchange} {n : Nat} (hne : as ≠ [])
      (h : Inserts as trace n) (message : String) (answer : Except String Unit) :
      Stores as
        (⟨.control .begin, .ok ()⟩ ::
          (trace ++ [⟨.control .commit, .error message⟩, ⟨.control .rollback, answer⟩]))
        (.error (.storage .commitTransaction (.reported message)))
  | committed {as : List NewArticle} {trace : List Exchange} {n : Nat} (hne : as ≠ [])
      (h : Inserts as trace n) :
      Stores as (⟨.control .begin, .ok ()⟩ :: (trace ++ [⟨.control .commit, .ok ()⟩])) (.ok n)

variable {as : List NewArticle} {trace : List Exchange}

/-- All insertions succeed, or one of them is the last. -/
theorem inserts_of_ends {y : Except Failure Nat} (h : (insertAll as).Ends trace y) :
    (∃ n, y = .ok n ∧ Inserts as trace n) ∨
      ∃ done a rest first n message, as = done ++ a :: rest ∧ Inserts done first n ∧
        trace = first ++ [⟨.affected (insertUnlessPresent a), .error message⟩] ∧
        y = .error (.storage (.createArticle a.url) (.reported message)) := by
  induction as generalizing trace y with
  | nil =>
    obtain ⟨rfl, rfl⟩ := Attempt.Ends.of_pure h
    exact Or.inl ⟨0, rfl, .nil⟩
  | cons a as ih =>
    rcases Attempt.Ends.of_bind h with ⟨e, hinsert, rfl⟩ | ⟨_, rest, _, rfl, hinsert, hrest⟩
    · obtain ⟨message, rfl, heq⟩ | ⟨_, -, heq⟩ := ends_changes hinsert
      · obtain rfl := Except.error.inj heq
        exact Or.inr ⟨[], a, as, [], 0, message, rfl, .nil, rfl, rfl⟩
      · cases heq
    obtain ⟨_, -, heq⟩ | ⟨count, rfl, heq⟩ := ends_changes hinsert
    · cases heq
    obtain rfl := Except.ok.inj heq
    rcases Attempt.Ends.of_bind hrest with ⟨e, hothers, rfl⟩ | ⟨others, _, n, rfl, hothers, hend⟩
    · obtain ⟨_, heq, -⟩ | ⟨done, b, rest, first, n, message, rfl, hdone, rfl, heq⟩ := ih hothers
      · cases heq
      · exact Or.inr ⟨a :: done, b, rest, _, _, message, rfl, .cons count hdone, rfl, heq⟩
    · obtain ⟨rfl, rfl⟩ := hend.of_pure
      obtain ⟨_, heq, hinserts⟩ | ⟨_, _, _, _, _, _, -, -, -, heq⟩ := ih hothers
      · obtain rfl := Except.ok.inj heq
        refine Or.inl ⟨_, rfl, ?_⟩
        rw [List.append_nil]
        have hcons : Inserts (a :: as) _ _ := .cons count hinserts
        simpa using hcons
      · cases heq

/-- Storing articles goes in one of these ways. -/
theorem stores_of_ends {y : Except Failure Nat} (h : (createAll as).Ends trace y) :
    Stores as trace y := by
  rw [createAll] at h
  by_cases hempty : as.isEmpty = true
  · rw [if_pos hempty] at h
    obtain rfl : as = [] := List.isEmpty_iff.mp hempty
    obtain ⟨rfl, rfl⟩ := Attempt.Ends.of_pure h
    exact .nothing
  · rw [if_neg hempty] at h
    have hne : as ≠ [] := fun heq => hempty (List.isEmpty_iff.mpr heq)
    rcases ends_transaction h with ⟨message, rfl, rfl⟩ | ⟨inside, outside, rfl, hends⟩
    · exact .notBegun hne message
    rcases hends with ⟨e, answer, hbody, rfl, rfl⟩ | ⟨n, message, answer, hbody, rfl, rfl⟩ |
      ⟨n, hbody, rfl, rfl⟩
    · rcases inserts_of_ends hbody with ⟨n, heq, -⟩ |
        ⟨done, a, rest, first, n, message, rfl, hdone, rfl, heq⟩
      · cases heq
      · obtain rfl := Except.error.inj heq
        rw [List.append_assoc]
        exact .notInserted hdone message answer
    · rcases inserts_of_ends hbody with ⟨n', heq, hinserts⟩ | ⟨_, _, _, _, _, _, -, -, -, heq⟩
      · exact .notCommitted hne hinserts message answer
      · cases heq
    · rcases inserts_of_ends hbody with ⟨n', heq, hinserts⟩ | ⟨_, _, _, _, _, _, -, -, -, heq⟩
      · obtain rfl := Except.ok.inj heq
        exact .committed hne hinserts
      · cases heq

end Articles

end FeedArchive
