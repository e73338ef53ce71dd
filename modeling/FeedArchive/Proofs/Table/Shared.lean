import FeedArchive.Program.Basic
import FeedArchive.Table
import Mathlib.Data.List.Nodup

/-!
# A shared table of articles

The table of articles as several sessions use it at the same time. What a session adds within a
transaction is seen by the session alone, until the transaction is committed and all of it takes
effect at once. No two articles have the same URL, so that a session which would add an article with
the URL of one that is pending in another session has to wait until the transaction there is over.

`SharedTable.Serves` says which answers a session may get. What it does not say anything about is
left open: the order of answers, the identifiers and times of storing of new rows, and what fails.
-/

namespace FeedArchive

open Database

/-! ## Statements -/

/-- The value of a column among columns with their parameters. -/
def NewArticle.ofColumns? (columns : List (String × Param)) : Option NewArticle :=
  match columns.lookup "source_id", columns.lookup "title", columns.lookup "url",
    columns.lookup "summary", columns.lookup "published_at" with
  | some (.int sourceId), some (.text title), some (.text url), some (.text summary),
    some (.time publishedAt) => some { sourceId, title, url, summary, publishedAt }
  | _, _, _, _, _ => none

namespace Database

/-- The article that a statement adds unless there is one with its URL, if it is such a
statement. -/
def Statement.newArticle? (statement : Statement) : Option NewArticle :=
  match statement.command with
  | .insert relation columns (.unlessPresent key) =>
    if relation = "articles" ∧ key = "url" then
      NewArticle.ofColumns? (columns.zip statement.params)
    else none
  | _ => none

/-- The table that a command changes, if it changes one. -/
def Command.changed? : Command → Option String
  | .insert relation _ _ | .update relation _ _ | .delete relation _ => some relation
  | .select .. | .present .. => none

/-- The statement that inserts an article is known by the article. -/
theorem newArticle?_insertUnlessPresent (a : NewArticle) :
    (Articles.insertUnlessPresent a).newArticle? = some a := by
  rfl

end Database

/-! ## Tables -/

/-- The URLs of articles. -/
def urls (rows : List Article) : List String :=
  rows.map (·.url)

/-- Rows have the URLs of the articles they have been stored from. -/
theorem map_url_map_toNew (rows : List Article) :
    (rows.map Article.toNew).map (·.url) = urls rows := by
  rw [List.map_map]
  rfl

/-- The stored articles, and for each session the articles that it has added in its open
transaction, if one is open. -/
structure SharedTable (ι : Type) where
  rows : List Article
  pending : ι → Option (List Article)

namespace SharedTable

variable {ι : Type} [DecidableEq ι]

/-- The articles that a session has added and not committed. -/
def uncommitted (table : SharedTable ι) (i : ι) : List Article :=
  (table.pending i).getD []

/-- What a session sees. -/
def visible (table : SharedTable ι) (i : ι) : List Article :=
  table.rows ++ table.uncommitted i

def begin (table : SharedTable ι) (i : ι) : SharedTable ι :=
  { table with pending := Function.update table.pending i (some (table.uncommitted i)) }

def commit (table : SharedTable ι) (i : ι) : SharedTable ι where
  rows := table.visible i
  pending := Function.update table.pending i none

def rollback (table : SharedTable ι) (i : ι) : SharedTable ι :=
  { table with pending := Function.update table.pending i none }

/-- Adds a row, within the open transaction if there is one. -/
def add (table : SharedTable ι) (i : ι) (row : Article) : SharedTable ι :=
  match table.pending i with
  | none => { table with rows := table.rows ++ [row] }
  | some rows => { table with pending := Function.update table.pending i (some (rows ++ [row])) }

/-- A session adds an article unless it sees one with the same URL; the number of rows that are
added. -/
inductive Inserts (table : SharedTable ι) (i : ι) (a : NewArticle) : Nat → SharedTable ι → Prop
  | present (h : a.url ∈ urls (table.visible i)) : Inserts table i a 0 table
  | new (row : Article) (hrow : row.toNew = a) (habsent : a.url ∉ urls (table.visible i))
      (hfree : ∀ j, j ≠ i → a.url ∉ urls (table.uncommitted j)) :
      Inserts table i a 1 (table.add i row)

/-- These are the URLs in the table, of those given. -/
def Has (table : SharedTable ι) (i : ι) (keys found : List String) : Prop :=
  ∀ u, u ∈ found ↔ u ∈ keys ∧ u ∈ urls (table.visible i)

/-- The answers that a session may get, and what they leave of the table, where the session finds
these texts at URLs. What fails changes nothing, except that a transaction is over once it is rolled
back. -/
def Serves (feed : ι → String → String) (i : ι) (table : SharedTable ι) :
    (r : Request) → r.Answer → SharedTable ι → Prop
  | .affected statement, answer, table' =>
    match statement.newArticle?, answer with
    | some a, .ok count => table.Inserts i a count table'
    | some _, .error _ => table' = table
    | none, _ => statement.command.changed? ≠ some "articles" → table' = table
  | .rows statement, answer, table' =>
    (statement.command.changed? ≠ some "articles" → table' = table) ∧
      ∀ keys rows, statement = Articles.urlsStatement keys → answer = .ok rows →
        ∃ found, rows = found.map (fun u => [("url", .text u)]) ∧ table.Has i keys found
  | .members keys, answer, table' =>
    table' = table ∧ ∀ found, answer.outcome = .ok found → table.Has i keys found
  | .control .begin, .ok _, table' => table' = table.begin i
  | .control .commit, .ok _, table' => table' = table.commit i
  | .control .rollback, _, table' => table' = table.rollback i
  | .control (.script _), _, _ => True
  | .control _, .error _, table' => table' = table
  | .fetch url _, answer, table' =>
    table' = table ∧ ∀ text, answer = .ok text → text = feed i url
  | .connect _, _, table' | .migrations, _, table' | .search .., _, table' | .now, _, table'
  | .elapsed, _, table' | .log _, _, table' | .print _, _, table' => table' = table

/-! ## What the operations leave alone -/

section Operations

variable {table : SharedTable ι} {i j : ι}

/-- A session that begins has its transaction open, with what it had added in it. -/
@[simp] theorem pending_begin_self :
    (table.begin i).pending i = some (table.uncommitted i) :=
  Function.update_self ..

/-- A session that commits has no transaction open. -/
@[simp] theorem pending_commit_self : (table.commit i).pending i = none :=
  Function.update_self ..

/-- A session that rolls back has no transaction open. -/
@[simp] theorem pending_rollback_self : (table.rollback i).pending i = none :=
  Function.update_self ..

/-- The beginning of a transaction is nothing to the other sessions. -/
theorem pending_begin_of_ne (h : j ≠ i) : (table.begin i).pending j = table.pending j :=
  Function.update_of_ne h ..

/-- A commit leaves the transactions of other sessions open. -/
theorem pending_commit_of_ne (h : j ≠ i) : (table.commit i).pending j = table.pending j :=
  Function.update_of_ne h ..

/-- A roll-back leaves the transactions of other sessions open. -/
theorem pending_rollback_of_ne (h : j ≠ i) : (table.rollback i).pending j = table.pending j :=
  Function.update_of_ne h ..

/-- Within a transaction a row is added to what is not committed. -/
theorem add_of_pending {rows : List Article} (h : table.pending i = some rows) (row : Article) :
    (table.add i row).rows = table.rows ∧
      (table.add i row).pending i = some (rows ++ [row]) ∧
      ∀ j, j ≠ i → (table.add i row).pending j = table.pending j := by
  rw [add, h]
  exact ⟨rfl, Function.update_self .., fun j hj => Function.update_of_ne hj ..⟩

end Operations

end SharedTable

/-! ## Consistent tables -/

namespace SharedTable

variable {ι : Type}

/-- No two articles have the same URL, whether they are committed or not. -/
structure Consistent (table : SharedTable ι) : Prop where
  rows : (urls table.rows).Nodup
  uncommitted : ∀ i, (urls (table.uncommitted i)).Nodup
  fresh : ∀ i, (urls table.rows).Disjoint (urls (table.uncommitted i))
  apart : ∀ i j, i ≠ j → (urls (table.uncommitted i)).Disjoint (urls (table.uncommitted j))

variable {table other : SharedTable ι} {i j : ι}

/-- What a session has not committed is what its open transaction has added. -/
theorem uncommitted_of_pending {rows : Option (List Article)} (h : table.pending i = rows) :
    table.uncommitted i = rows.getD [] := by
  rw [uncommitted, h]

/-- What a session has not committed depends on its own transaction only. -/
theorem uncommitted_congr (h : other.pending j = table.pending j) :
    other.uncommitted j = table.uncommitted j := by
  rw [uncommitted, h, uncommitted]

/-- Without open transactions there are only the rows to look at. -/
theorem Consistent.of_pending_none (hrows : (urls table.rows).Nodup)
    (hpending : ∀ i, table.pending i = none) : table.Consistent := by
  have hnone : ∀ i, table.uncommitted i = [] := fun i => uncommitted_of_pending (hpending i)
  refine ⟨hrows, fun i => ?_, fun i => ?_, fun i j _ => ?_⟩
  · rw [hnone i]
    exact List.nodup_nil
  · rw [hnone i]
    exact List.disjoint_nil_right _
  · rw [hnone i]
    exact List.disjoint_nil_left _

/-- A session that has changed only what it has not committed leaves a consistent table if that is
apart from all else. -/
theorem Consistent.of_uncommitted (h : table.Consistent) (hrows : other.rows = table.rows)
    (hothers : ∀ j, j ≠ i → other.pending j = table.pending j)
    (hnodup : (urls (other.uncommitted i)).Nodup)
    (hfresh : (urls table.rows).Disjoint (urls (other.uncommitted i)))
    (hapart : ∀ j, j ≠ i → (urls (other.uncommitted i)).Disjoint (urls (table.uncommitted j))) :
    other.Consistent := by
  -- two sessions are compared by whether one of them is the one that has changed
  have hsame : ∀ j, j ≠ i → other.uncommitted j = table.uncommitted j :=
    fun j hj => uncommitted_congr (hothers j hj)
  refine ⟨hrows ▸ h.rows, fun j => ?_, fun j => ?_, fun j k hjk => ?_⟩
  · by_cases hj : j = i
    · exact hj ▸ hnodup
    · exact hsame j hj ▸ h.uncommitted j
  · rw [hrows]
    by_cases hj : j = i
    · exact hj ▸ hfresh
    · exact hsame j hj ▸ h.fresh j
  · by_cases hj : j = i
    · subst hj
      rw [hsame k (Ne.symm hjk)]
      exact hapart k (Ne.symm hjk)
    · rw [hsame j hj]
      by_cases hk : k = i
      · subst hk
        exact fun u hu hu' => hapart j hj hu' hu
      · rw [hsame k hk]
        exact h.apart j k hjk

variable [DecidableEq ι]

/-- The beginning of a transaction leaves the table consistent. -/
theorem Consistent.begin (h : table.Consistent) : (table.begin i).Consistent := by
  have hsame : (table.begin i).uncommitted i = table.uncommitted i := by
    rw [SharedTable.uncommitted, pending_begin_self]
    rfl
  refine h.of_uncommitted (i := i) rfl (fun j hj => pending_begin_of_ne hj) ?_ ?_ fun j hj => ?_
  · exact hsame ▸ h.uncommitted i
  · exact hsame ▸ h.fresh i
  · exact hsame ▸ h.apart i j (Ne.symm hj)

/-- A roll-back leaves the table consistent. -/
theorem Consistent.rollback (h : table.Consistent) : (table.rollback i).Consistent := by
  have hnone : (table.rollback i).uncommitted i = [] :=
    uncommitted_of_pending pending_rollback_self
  refine h.of_uncommitted (i := i) rfl (fun j hj => pending_rollback_of_ne hj) ?_ ?_ fun j hj => ?_
  · rw [hnone]
    exact List.nodup_nil
  · rw [hnone]
    exact List.disjoint_nil_right _
  · rw [hnone]
    exact List.disjoint_nil_left _

/-- What is committed was apart from what others have not committed. -/
theorem Consistent.commit (h : table.Consistent) : (table.commit i).Consistent := by
  have hnone : (table.commit i).uncommitted i = [] := uncommitted_of_pending pending_commit_self
  have hsame : ∀ j, j ≠ i → (table.commit i).uncommitted j = table.uncommitted j :=
    fun j hj => uncommitted_congr (pending_commit_of_ne hj)
  have hrows : urls (table.commit i).rows = urls table.rows ++ urls (table.uncommitted i) :=
    List.map_append
  -- `of_uncommitted` does not apply, as the rows change too
  refine ⟨?_, fun j => ?_, fun j => ?_, fun j k hjk => ?_⟩
  · rw [hrows]
    exact (h.rows).append (h.uncommitted i) (h.fresh i)
  · by_cases hj : j = i
    · rw [hj, hnone]
      exact List.nodup_nil
    · exact hsame j hj ▸ h.uncommitted j
  · by_cases hj : j = i
    · rw [hj, hnone]
      exact List.disjoint_nil_right _
    · rw [hrows, hsame j hj]
      exact List.disjoint_append_left.mpr ⟨h.fresh j, h.apart i j (Ne.symm hj)⟩
  · by_cases hj : j = i
    · rw [hj, hnone]
      exact List.disjoint_nil_left _
    · by_cases hk : k = i
      · rw [hk, hnone]
        exact List.disjoint_nil_right _
      · rw [hsame j hj, hsame k hk]
        exact h.apart j k hjk

/-- An article is added to a transaction if neither its session nor another one has its URL. -/
theorem Consistent.add (h : table.Consistent) {rows : List Article}
    (hpending : table.pending i = some rows) {row : Article}
    (habsent : row.url ∉ urls (table.visible i))
    (hfree : ∀ j, j ≠ i → row.url ∉ urls (table.uncommitted j)) : (table.add i row).Consistent := by
  obtain ⟨hrows, hself, hothers⟩ := add_of_pending hpending row
  have hbefore : table.uncommitted i = rows := uncommitted_of_pending hpending
  have hafter : urls ((table.add i row).uncommitted i) = urls rows ++ [row.url] := by
    rw [uncommitted_of_pending hself]
    exact List.map_append
  rw [visible, urls, List.map_append, List.mem_append, not_or, hbefore] at habsent
  have hnodup := h.uncommitted i
  have hfresh := h.fresh i
  have hapart := h.apart i
  rw [hbefore] at hnodup hfresh hapart
  refine h.of_uncommitted (i := i) hrows hothers ?_ ?_ fun j hj => ?_
  · rw [hafter]
    exact hnodup.append (List.nodup_singleton _) (List.disjoint_singleton.mpr habsent.2)
  · rw [hafter]
    exact List.disjoint_append_right.mpr ⟨hfresh, List.disjoint_singleton.mpr habsent.1⟩
  · rw [hafter]
    exact List.disjoint_append_left.mpr
      ⟨hapart j (Ne.symm hj), List.singleton_disjoint.mpr (hfree j hj)⟩

end SharedTable

end FeedArchive
