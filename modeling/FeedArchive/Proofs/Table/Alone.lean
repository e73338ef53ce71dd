import FeedArchive.Proofs.Lists
import FeedArchive.Proofs.Table.Session
import FeedArchive.Proofs.Table.Storing

/-!
# A table without other sessions

What becomes of a table of articles that a single session uses. The world may fail at any request;
`World.Keeps` only says that its answers are those which a session at the table may get. Articles
are then stored all or not at all, and for each URL that was not in the table before the first of
them is added (`World.Keeps.stored`).
-/

namespace FeedArchive

open Database SharedTable

variable {σ : Type}

/-- What a session sees are the rows and what its transaction has added. -/
theorem SharedTable.visible_of_pending {ι : Type} {table : SharedTable ι} {i : ι}
    {pending : Option (List Article)} (h : table.pending i = pending) :
    table.visible i = table.rows ++ pending.getD [] := by
  rw [visible, uncommitted_of_pending h]

/-- A world keeps a table of articles that nothing else changes. The texts that are found at URLs
may change with its state. -/
structure World.Keeps (world : World σ) (table : σ → SharedTable Unit)
    (feed : σ → String → String) : Prop where
  serves : ∀ r s, Serves (fun _ => feed s) () (table s) r (world.answer r s).1
    (table (world.answer r s).2)

namespace World.Keeps

variable {world : World σ} {table : σ → SharedTable Unit} {feed : σ → String → String} {s t : σ}
  {trace : List Exchange}

/-- What a world with this table and this feed answers is served on the terms of a session. -/
theorem served (h : world.Keeps table feed) {r : Request} {answer : r.Answer}
    (hanswer : world.answer r s = (answer, t)) :
    Serves (fun _ => feed s) () (table s) r answer (table t) := by
  have hserves := h.serves r s
  rw [hanswer] at hserves
  exact hserves

/-- A request that leaves the table as it is, whatever its answer. -/
theorem table_answer (h : world.Keeps table feed) {r : Request}
    (hquiet : ∀ feed, Quiet feed () r) (s : σ) : table (world.answer r s).2 = table s :=
  hquiet _ _ _ _ (h.serves r s)

/-- After a request that leaves the table as it is. -/
theorem after_quiet (h : world.Keeps table feed) {r : Request} {answer : r.Answer}
    (hquiet : ∀ feed, Quiet feed () r) (hleads : world.Leads s (⟨r, answer⟩ :: trace) t) :
    ∃ u, table u = table s ∧ world.Leads u trace t := by
  obtain ⟨u, hanswer, hrest⟩ := hleads.of_cons
  exact ⟨u, hquiet _ _ _ _ (h.served hanswer), hrest⟩

/-- Insertions that succeed add the first article for each URL that has not been there before. -/
theorem inserted (hkeeps : world.Keeps table feed) {as : List NewArticle} {n : Nat}
    (h : Articles.Inserts as trace n) (hleads : world.Leads s trace t) {rows : List Article}
    (hpending : (table s).pending () = some rows) :
    (table t).rows = (table s).rows ∧ ∃ added, (table t).pending () = some (rows ++ added) ∧
      added.length = n ∧ added.map Article.toNew
        = distinctBy (·.url) (as.filter fun a => a.url ∉ urls ((table s).visible ())) := by
  -- what is seen grows by each new row, so that a later article with its URL is left out
  induction h generalizing s rows with
  | nil =>
    rw [hleads.eq_of_nil, hpending]
    exact ⟨rfl, [], congrArg some (List.append_nil rows).symm, rfl, rfl⟩
  | @cons a as _ n count h ih =>
    obtain ⟨u, hanswer, hrest⟩ := hleads.of_cons
    have hserves := hkeeps.served hanswer
    simp only [Serves, newArticle?_insertUnlessPresent] at hserves
    generalize htable : table u = table' at hserves
    cases hserves with
    | present hseen =>
      obtain ⟨hrows, added, hafter, hlength, hadded⟩ := ih hrest (htable ▸ hpending)
      rw [htable] at hrows hadded
      refine ⟨hrows, added, hafter, hlength, ?_⟩
      rw [hadded, List.filter_cons_of_neg]
      simpa using hseen
    | new row hrow habsent hfree =>
      subst hrow
      obtain ⟨hsame, hself, -⟩ := add_of_pending hpending row
      obtain ⟨hrows, added, hafter, hlength, hadded⟩ := ih hrest (htable ▸ hself)
      rw [htable] at hrows hadded
      refine ⟨hrows.trans hsame, row :: added, ?_, ?_, ?_⟩
      · rw [hafter, List.append_assoc, List.singleton_append]
      · rw [List.length_cons, hlength]
        rfl
      · have hvisible : urls (((table s).add () row).visible ())
            = urls ((table s).visible ()) ++ [row.url] := by
          rw [visible_of_pending hself, visible_of_pending hpending, hsame, Option.getD_some,
            ← List.append_assoc]
          exact List.map_append
        have hothers : (as.filter fun a => a.url ∉ urls (((table s).add () row).visible ()))
            = (as.filter fun a => a.url ∉ urls ((table s).visible ())).filter
                (·.url != row.toNew.url) := by
          rw [List.filter_filter, hvisible]
          refine List.filter_congr fun a _ => ?_
          rw [Bool.eq_iff_iff]
          simp [Article.toNew, and_comm]
        rw [List.map_cons, hadded, hothers, distinctBy_filter NewArticle.url (· != row.toNew.url),
          List.filter_cons_of_pos (by simpa using habsent), distinctBy]

/-- What insertions that succeed leave in a transaction that has been begun for them. -/
theorem begun (hkeeps : world.Keeps table feed) {as : List NewArticle} {n : Nat}
    {outside : List Exchange} (h : Articles.Inserts as trace n)
    (hleads : world.Leads s (⟨.control .begin, .ok ()⟩ :: (trace ++ outside)) t)
    (hidle : (table s).pending () = none) :
    ∃ u added, world.Leads u outside t ∧ (table u).rows = (table s).rows ∧
      (table u).pending () = some added ∧ added.length = n ∧ added.map Article.toNew
        = distinctBy (·.url) (as.filter fun a => a.url ∉ urls (table s).rows) := by
  have hnone : (table s).uncommitted () = [] := uncommitted_of_pending hidle
  obtain ⟨u, hanswer, hrest⟩ := hleads.of_cons
  have hbegin : table u = (table s).begin () := hkeeps.served hanswer
  have hpending : (table u).pending () = some [] := by
    rw [hbegin, pending_begin_self, hnone]
  have hrows : (table u).rows = (table s).rows := by rw [hbegin]; rfl
  obtain ⟨v, hinserts, houtside⟩ := hrest.of_append
  obtain ⟨hsame, added, hafter, hlength, hadded⟩ := hkeeps.inserted h hinserts hpending
  rw [visible_of_pending hpending, Option.getD_some, List.append_nil, hrows] at hadded
  exact ⟨v, added, houtside, hsame.trans hrows, hafter, hlength, hadded⟩

/-- A rollback ends the transaction, and the rows stay as they are. -/
theorem rolledBack (hkeeps : world.Keeps table feed) {answer : Except String Unit}
    (hleads : world.Leads s [⟨.control .rollback, answer⟩] t) :
    (table t).pending () = none ∧ (table t).rows = (table s).rows := by
  obtain ⟨u, hanswer, hrest⟩ := hleads.of_cons
  have hrollback : table u = (table s).rollback () := by
    have hserves := hkeeps.served hanswer
    cases answer <;> exact hserves
  rw [hrest.eq_of_nil, hrollback]
  exact ⟨pending_rollback_self, rfl⟩

/-- Storing articles leaves no transaction open. If it fails the table is as before; else the first
article is added for each URL that was not in it. -/
theorem stored (hkeeps : world.Keeps table feed) {as : List NewArticle} {y : Except Failure Nat}
    (h : Articles.Stores as trace y) (hleads : world.Leads s trace t)
    (hidle : (table s).pending () = none) :
    (table t).pending () = none ∧
      match y with
      | .error _ => (table t).rows = (table s).rows
      | .ok n => ∃ added, (table t).rows = (table s).rows ++ added ∧ added.length = n ∧
          added.map Article.toNew
            = distinctBy (·.url) (as.filter fun a => a.url ∉ urls (table s).rows) := by
  -- whatever fails after the begin, the rollback leaves only the rows, which are as before
  cases h with
  | nothing =>
    rw [hleads.eq_of_nil]
    exact ⟨hidle, [], (List.append_nil _).symm, rfl, rfl⟩
  | notBegun hne message =>
    obtain ⟨u, hanswer, hrest⟩ := hleads.of_cons
    have hsame : table u = table s := hkeeps.served hanswer
    rw [hrest.eq_of_nil, hsame]
    exact ⟨hidle, rfl⟩
  | @notInserted done rest a trace n hdone message answer =>
    obtain ⟨u, added, houtside, hrows, -⟩ := hkeeps.begun hdone hleads hidle
    obtain ⟨v, hanswer, hrollback⟩ := houtside.of_cons
    have hsame : table v = table u := by
      have hserves := hkeeps.served hanswer
      simpa only [Serves, newArticle?_insertUnlessPresent] using hserves
    obtain ⟨hnone, hafter⟩ := hkeeps.rolledBack hrollback
    exact ⟨hnone, hafter.trans (hsame ▸ hrows)⟩
  | notCommitted hne hinserts message answer =>
    obtain ⟨u, added, houtside, hrows, -⟩ := hkeeps.begun hinserts hleads hidle
    obtain ⟨v, hanswer, hrollback⟩ := houtside.of_cons
    have hsame : table v = table u := hkeeps.served hanswer
    obtain ⟨hnone, hafter⟩ := hkeeps.rolledBack hrollback
    exact ⟨hnone, hafter.trans (hsame ▸ hrows)⟩
  | committed hne hinserts =>
    obtain ⟨u, added, houtside, hrows, hpending, hlength, hadded⟩ :=
      hkeeps.begun hinserts hleads hidle
    obtain ⟨v, hanswer, hrest⟩ := houtside.of_cons
    have hcommit : table v = (table u).commit () := hkeeps.served hanswer
    rw [hrest.eq_of_nil, hcommit]
    refine ⟨pending_commit_self, added, ?_, hlength, hadded⟩
    rw [← hrows]
    exact visible_of_pending hpending

end World.Keeps

end FeedArchive
