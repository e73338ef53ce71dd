import FeedArchive.Proofs.Program.Logic
import FeedArchive.Proofs.Table.Shared
import Mathlib.Data.Set.Insert

/-!
# Sessions at a shared table

What a session at a shared table relies on, and what it guarantees (`SharedTable.terms`): the table
stays consistent, rows stay, and new rows are from articles that are the session's own. `Knows` is
what a session may go on to know while others are at work; there is one lemma for each kind of
request that says how it changes.
-/

namespace FeedArchive

open Database

/-- A shared table, and how many rows a session has added to it so far. -/
structure Counted (ι : Type) where
  table : SharedTable ι
  added : Nat

namespace SharedTable

variable {ι : Type}

/-- What a request of a session keeps. -/
structure Guarantee (own : NewArticle → Prop) (i : ι) (table table' : SharedTable ι) : Prop where
  consistent : table'.Consistent
  grows : table.rows <+: table'.rows
  others : ∀ j, j ≠ i → table'.pending j = table.pending j
  own : ∀ row ∈ table'.rows, row ∈ table.rows ∨ own row.toNew

/-- What other sessions may do to a table, as a session sees it. -/
structure Rely (i : ι) (table table' : SharedTable ι) : Prop where
  consistent : table'.Consistent
  grows : table.rows <+: table'.rows
  pending : table'.pending i = table.pending i

/-- A session knows how many rows it has added, what it has not committed, and of some URLs that
they are among those which it sees. -/
structure Knows (i : ι) (added : Nat) (pending : Option (List Article)) (stored : Set String)
    (s : Counted ι) : Prop where
  added : s.added = added
  pending : s.table.pending i = pending
  stored : ∀ u ∈ stored, u ∈ urls (s.table.visible i)

variable {own : NewArticle → Prop} {i j : ι} {table table' : SharedTable ι} {n : Nat}
  {pending : Option (List Article)} {stored : Set String} {s t : Counted ι}

/-- A session may rely on a table that nobody touches. -/
theorem Consistent.rely (h : table.Consistent) : Rely i table table :=
  ⟨h, List.prefix_refl _, rfl⟩

/-- What a session guarantees is what the others rely on. -/
theorem Guarantee.rely (h : Guarantee own i table table') (hj : j ≠ i) : Rely j table table' :=
  ⟨h.consistent, h.grows, h.others j hj⟩

/-- A session may do with its own transaction what it likes, as long as the rows stay as they
are. -/
theorem Guarantee.of_rows (hconsistent : table'.Consistent) (hrows : table'.rows = table.rows)
    (hothers : ∀ j, j ≠ i → table'.pending j = table.pending j) : Guarantee own i table table' :=
  ⟨hconsistent, hrows ▸ List.prefix_refl _, hothers, fun _ hrow => Or.inl (hrows ▸ hrow)⟩

/-- A session sees the URLs of the rows and those that it has not committed. -/
theorem urls_visible (table : SharedTable ι) (i : ι) :
    urls (table.visible i) = urls table.rows ++ urls (table.uncommitted i) :=
  List.map_append

/-- A session sees at least what it has seen if rows stay and it adds to its transaction. -/
theorem mem_urls_visible {u : String} (h : u ∈ urls (table.visible i))
    (hrows : table.rows <+: table'.rows)
    (hown : table.uncommitted i <+: table'.uncommitted i) : u ∈ urls (table'.visible i) := by
  rw [urls_visible, List.mem_append] at h ⊢
  rcases h with h | h
  · exact Or.inl (List.map_subset Article.url hrows.subset h)
  · exact Or.inr (List.map_subset Article.url hown.subset h)

/-- A session that knows of some URLs knows of fewer. -/
theorem Knows.mono {less : Set String} (h : Knows i n pending stored s) (hsub : less ⊆ stored) :
    Knows i n pending less s :=
  ⟨h.added, h.pending, fun u hu => h.stored u (hsub hu)⟩

/-- As long as the rows stay as they are nothing is added. -/
theorem Knows.of_rows (hrows : table'.rows = table.rows) (hpending : table'.pending i = pending)
    (hstored : ∀ u ∈ stored, u ∈ urls (table'.visible i)) :
    Knows i n pending stored ⟨table', n + (table'.rows.length - table.rows.length)⟩ := by
  refine ⟨?_, hpending, hstored⟩
  rw [hrows, Nat.sub_self, Nat.add_zero]

/-- What a session knows after a request that changed nothing. -/
theorem Knows.unchanged (h : Knows i n pending stored t) (hconsistent : t.table.Consistent) :
    Guarantee own i t.table t.table ∧
      Knows i n pending stored ⟨t.table, n + (t.table.rows.length - t.table.rows.length)⟩ :=
  ⟨Guarantee.of_rows hconsistent rfl fun _ _ => rfl, Knows.of_rows rfl h.pending h.stored⟩

/-! ## Terms -/

variable [DecidableEq ι] {feed : ι → String → String}

/-- The terms of a session that adds articles of its own. -/
def terms (feed : ι → String → String) (own : NewArticle → Prop) (i : ι) : Terms (Counted ι) where
  serves s r answer t :=
    Serves feed i s.table r answer t.table ∧
      t.added = s.added + (t.table.rows.length - s.table.rows.length)
  rely s t := Rely i s.table t.table ∧ t.added = s.added
  guarantee s t := Guarantee own i s.table t.table

/-- What others do at first and then is something they may do. -/
theorem rely_trans (s t u : Counted ι) (hst : (terms feed own i).rely s t)
    (htu : (terms feed own i).rely t u) : (terms feed own i).rely s u :=
  ⟨⟨htu.1.consistent, hst.1.grows.trans htu.1.grows, htu.1.pending.trans hst.1.pending⟩,
    htu.2.trans hst.2⟩

/-- What a session knows stays true, as rows stay and its transaction is its own. -/
theorem knows_stable : (terms feed own i).Stable (Knows i n pending stored) := by
  intro s t hrely h
  refine ⟨hrely.2.trans h.added, hrely.1.pending.trans h.pending, fun u hu => ?_⟩
  have hsame : t.table.uncommitted i = s.table.uncommitted i := uncommitted_congr hrely.1.pending
  exact mem_urls_visible (h.stored u hu) hrely.1.grows (hsame ▸ List.prefix_refl _)

/-! ## Requests -/

/-- The request leaves the table as it is, whatever its answer. -/
def Quiet (feed : ι → String → String) (i : ι) (r : Request) : Prop :=
  ∀ table answer table', Serves feed i table r answer table' → table' = table

/-- Asking for keys leaves the table as it is. -/
theorem quiet_members (keys : List String) : Quiet feed i (.members keys) :=
  fun _ _ _ h => h.1

/-- Fetching a feed leaves the table as it is. -/
theorem quiet_fetch (url : String) (timeout : Span) : Quiet feed i (.fetch url timeout) :=
  fun _ _ _ h => h.1

/-- Reading the clock leaves the table as it is. -/
theorem quiet_now : Quiet feed i .now := fun _ _ _ h => h

/-- Asking how long the database took leaves the table as it is. -/
theorem quiet_elapsed : Quiet feed i .elapsed := fun _ _ _ h => h

/-- Writing to the log leaves the table as it is. -/
theorem quiet_log (event : Event) : Quiet feed i (.log event) := fun _ _ _ h => h

/-- Printing a line leaves the table as it is. -/
theorem quiet_print (line : String) : Quiet feed i (.print line) := fun _ _ _ h => h

/-- A statement on another table that returns rows leaves this one as it is. -/
theorem quiet_rows {statement : Statement} (h : statement.command.changed? ≠ some "articles") :
    Quiet feed i (.rows statement) :=
  fun _ _ _ hserves => hserves.1 h

/-- A statement that changes another table leaves this one as it is. -/
theorem quiet_affected {statement : Statement} (hnew : statement.newArticle? = none)
    (h : statement.command.changed? ≠ some "articles") : Quiet feed i (.affected statement) := by
  intro table answer table' hserves
  simp only [Serves, hnew] at hserves
  exact hserves h

/-- A request is answered from a consistent table of which the session knows what it knew. -/
theorem holds_served {r : Request} {Q : r.Answer → Counted ι → Prop}
    (h : Knows i n pending stored s)
    (hserved : ∀ t answer table', Knows i n pending stored t → t.table.Consistent →
      Serves feed i t.table r answer table' → Guarantee own i t.table table' ∧
        Q answer ⟨table', n + (table'.rows.length - t.table.rows.length)⟩) :
    (Program.request r).Holds (terms feed own i) Q s := by
  refine Program.holds_request fun t hrely answer u hserves => ?_
  have ht := knows_stable s t hrely h
  obtain ⟨table', added⟩ := u
  obtain ⟨hanswer, hadded⟩ := hserves
  simp only [ht.added] at hadded
  rw [hadded]
  exact hserved t answer table' ht hrely.1.consistent hanswer

/-- A request that leaves the table as it is. -/
theorem holds_quiet {r : Request} (hquiet : Quiet feed i r) (h : Knows i n pending stored s) :
    (Program.request r).Holds (terms feed own i)
      (fun answer t => Knows i n pending stored t ∧ Serves feed i t.table r answer t.table) s := by
  refine holds_served h fun t answer table' ht hconsistent hserves => ?_
  obtain rfl : table' = t.table := hquiet _ _ _ hserves
  obtain ⟨hguarantee, hknows⟩ := ht.unchanged hconsistent
  exact ⟨hguarantee, hknows, hserves⟩

/-- Such a request leaves what the session knows, too. -/
theorem holds_unchanged {r : Request} (hquiet : Quiet feed i r) (h : Knows i n pending stored s) :
    (Program.request r).Holds (terms feed own i) (fun _ => Knows i n pending stored) s :=
  (holds_quiet hquiet h).mono fun _ _ ht => ht.1

/-- A session begins a transaction, in which nothing is pending yet. -/
theorem holds_begin (h : Knows i n none stored s) :
    (send .begin).Holds (terms feed own i) (fun _ => Knows i n (some []) stored)
      (Knows i n none stored) s := by
  refine Attempt.holds_request (holds_served h fun t answer table' ht hconsistent hserves => ?_)
  cases answer with
  | error message =>
    obtain rfl : table' = t.table := hserves
    exact ht.unchanged hconsistent
  | ok _ =>
    obtain rfl : table' = t.table.begin i := hserves
    have hnone : t.table.uncommitted i = [] := uncommitted_of_pending ht.pending
    have hpending : (t.table.begin i).pending i = some [] := hnone ▸ pending_begin_self
    refine ⟨Guarantee.of_rows hconsistent.begin rfl fun j hj => pending_begin_of_ne hj,
      Knows.of_rows rfl hpending fun u hu => ?_⟩
    refine mem_urls_visible (ht.stored u hu) (List.prefix_refl _) ?_
    rw [hnone]
    exact List.nil_prefix

/-- A session rolls its transaction back, and forgets what it has seen. -/
theorem holds_rollback (h : Knows i n pending stored s) :
    (Program.request (.control .rollback)).Holds (terms feed own i)
      (fun _ t => Knows i n none ∅ t) s := by
  refine holds_served h fun t answer table' ht hconsistent hserves => ?_
  obtain rfl : table' = t.table.rollback i := by
    cases answer <;> exact hserves
  exact ⟨Guarantee.of_rows hconsistent.rollback rfl fun j hj => pending_rollback_of_ne hj,
    Knows.of_rows rfl pending_rollback_self fun u hu => absurd hu (Set.notMem_empty u)⟩

/-- A session commits its transaction, and all that was pending is added. -/
theorem holds_commit {rows : List Article} (hown : ∀ row ∈ rows, own row.toNew)
    (h : Knows i n (some rows) stored s) :
    (send .commit).Holds (terms feed own i) (fun _ => Knows i (n + rows.length) none stored)
      (Knows i n (some rows) stored) s := by
  refine Attempt.holds_request (holds_served h fun t answer table' ht hconsistent hserves => ?_)
  cases answer with
  | error message =>
    obtain rfl : table' = t.table := hserves
    exact ht.unchanged hconsistent
  | ok _ =>
    obtain rfl : table' = t.table.commit i := hserves
    -- all that is pending becomes rows at once, and only now is it counted
    have hrows : (t.table.commit i).rows = t.table.rows ++ rows := by
      show t.table.visible i = _
      rw [visible, uncommitted_of_pending ht.pending]
      rfl
    refine ⟨⟨hconsistent.commit, hrows ▸ List.prefix_append _ _,
      fun j hj => pending_commit_of_ne hj, fun row hrow => ?_⟩, ⟨?_, pending_commit_self, ?_⟩⟩
    · rw [hrows, List.mem_append] at hrow
      exact hrow.imp_right (hown row)
    · rw [hrows, List.length_append, Nat.add_sub_cancel_left]
    · intro u hu
      rw [urls_visible, List.mem_append]
      exact Or.inl (ht.stored u hu)

/-- A session adds an article of its own within a transaction, unless it sees one with its URL. -/
theorem holds_insert {a : NewArticle} {rows : List Article} (ha : own a)
    (hown : ∀ row ∈ rows, own row.toNew) (h : Knows i n (some rows) stored s) :
    (Articles.insert a).Holds (terms feed own i)
      (fun isNew t => ∃ rows', Knows i n (some rows') (insert a.url stored) t ∧
        rows'.length = rows.length + (if isNew then 1 else 0) ∧ ∀ row ∈ rows', own row.toNew)
      (Knows i n (some rows) stored) s := by
  have hexecute : (execute (Articles.insertUnlessPresent a)).Holds (terms feed own i)
      (fun count t => ∃ rows', Knows i n (some rows') (insert a.url stored) t ∧
        rows'.length = rows.length + (if 0 < count then 1 else 0) ∧ ∀ row ∈ rows', own row.toNew)
      (Knows i n (some rows) stored) s := by
    refine Attempt.holds_request (holds_served h fun t answer table' ht hconsistent hserves => ?_)
    cases answer with
    | error message =>
      simp only [Serves, newArticle?_insertUnlessPresent] at hserves
      rw [hserves]
      exact ht.unchanged hconsistent
    | ok count =>
      simp only [Serves, newArticle?_insertUnlessPresent] at hserves
      cases hserves with
      | present hseen =>
        refine ⟨(ht.unchanged hconsistent).1, rows, ?_, rfl, hown⟩
        refine Knows.of_rows rfl ht.pending fun u hu => ?_
        rcases Set.mem_insert_iff.mp hu with rfl | hu
        · exact hseen
        · exact ht.stored u hu
      | new row hrow habsent hfree =>
        -- no other session has the URL pending, or this one would still be waiting
        subst hrow
        obtain ⟨hrows, hself, hothers⟩ := add_of_pending ht.pending row
        refine ⟨Guarantee.of_rows (hconsistent.add ht.pending habsent hfree) hrows hothers,
          rows ++ [row], ?_, List.length_append, ?_⟩
        · have hafter : (t.table.add i row).uncommitted i = rows ++ [row] :=
            uncommitted_of_pending hself
          refine Knows.of_rows hrows hself fun u hu => ?_
          rcases Set.mem_insert_iff.mp hu with rfl | hu
          · rw [urls_visible, List.mem_append, hafter]
            exact Or.inr (List.mem_map_of_mem (List.mem_append_right _ List.mem_cons_self))
          · refine mem_urls_visible (ht.stored u hu) (hrows ▸ List.prefix_refl _) ?_
            rw [hafter, uncommitted_of_pending ht.pending]
            exact List.prefix_append _ _
        · rw [List.forall_mem_append, List.forall_mem_singleton]
          exact ⟨hown, ha⟩
  refine hexecute.mapError.map fun count t ht => ?_
  simpa using ht

end SharedTable

end FeedArchive
