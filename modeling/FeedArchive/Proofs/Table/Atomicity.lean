import FeedArchive.Proofs.Table.Alone
import FeedArchive.Proofs.Table.Plan
import FeedArchive.Proofs.Table.Rehearsal
import Mathlib

/-!
# All or nothing

Articles are stored in one transaction, at a table that nothing else changes and in which no two
articles have the same URL. Wherever storing fails, the table is as it was; if it does not fail, the
first article for each URL that was not in the table is added, and all that is added is counted
(`Articles.createAll_atomic`).
-/

namespace FeedArchive

open Database SharedTable

variable {σ : Type} {world : World σ} {table : σ → SharedTable Unit} {feed : σ → String → String}
  {s : σ}

/-- Without an open transaction there is nothing to a table but its rows. -/
theorem SharedTable.eq_of_idle {table other : SharedTable Unit} (hrows : table.rows = other.rows)
    (hidle : table.pending () = none) (hidle' : other.pending () = none) : table = other := by
  obtain ⟨rows, pending⟩ := table
  obtain ⟨rows', pending'⟩ := other
  have hpending : pending = pending' := funext fun _ => hidle.trans hidle'.symm
  subst hrows
  subst hpending
  rfl

/-- The first article for each URL that is not in a table may be added to it. -/
theorem nodup_urls_append {rows added : List Article} {as : List NewArticle}
    (hrows : (urls rows).Nodup) (hadded : added.map Article.toNew
      = distinctBy (·.url) (as.filter fun a => a.url ∉ urls rows)) :
    (urls (rows ++ added)).Nodup := by
  have hurls : urls added = distinct ((as.filter fun a => a.url ∉ urls rows).map (·.url)) := by
    rw [← map_url_map_toNew, hadded, map_distinctBy]
  have happend : urls (rows ++ added) = urls rows ++ urls added := List.map_append
  rw [happend]
  refine hrows.append (hurls ▸ nodup_distinct _) fun u hu hu' => ?_
  rw [hurls, mem_distinct, List.mem_map] at hu'
  obtain ⟨a, ha, rfl⟩ := hu'
  exact of_decide_eq_true (List.mem_filter.mp ha).2 hu

namespace Articles

/-- Storing articles carries out the plan for it, which is empty if there are no articles. If it
fails the table is exactly as before. Else the table has the first article for each URL that was not
in it in addition, in the order of the list, and as many of them are reported. -/
theorem createAll_atomic (hkeeps : world.Keeps table feed) (as : List NewArticle)
    (hidle : (table s).pending () = none) (hunique : (urls (table s).rows).Nodup) :
    let trace := (createAll as).run.exchanges world s
    let run := (createAll as).runIn world s
    Carries (plan as) (sentIn trace) run.1 ∧ (as = [] → trace = [] ∧ run = (.ok 0, s)) ∧
      match run.1 with
      | .error _ => table run.2 = table s
      | .ok n => ∃ added, (table run.2).rows = (table s).rows ++ added ∧ added.length = n ∧
          added.map Article.toNew
            = distinctBy (·.url) (as.filter fun a => a.url ∉ urls (table s).rows) ∧
          (table run.2).pending () = none ∧ (urls (table run.2).rows).Nodup := by
  intro trace run
  have hstores : Stores as trace run.1 := stores_of_ends (Program.ends_run world _ s)
  have hleads : world.Leads s trace run.2 := world.leads_run _ s
  refine ⟨hstores.carries, ?_, ?_⟩
  · rintro rfl
    exact ⟨rfl, rfl⟩
  · obtain ⟨result, t⟩ := run
    cases result with
    | error failure =>
      obtain ⟨hnone, hrows⟩ := hkeeps.stored hstores hleads hidle
      exact SharedTable.eq_of_idle hrows hnone hidle
    | ok n =>
      obtain ⟨hnone, added, hrows, hlength, hadded⟩ := hkeeps.stored hstores hleads hidle
      refine ⟨added, hrows, hlength, hadded, hnone, ?_⟩
      show (urls (table t).rows).Nodup
      rw [hrows]
      exact nodup_urls_append hunique hadded

set_option maxRecDepth 4000 in
/-- Of four articles one is in the table and one repeats a URL. The other two are added, or none if
the last insertion is refused. -/
theorem createAll_atomic_conflicts :
    let rehearsal : Rehearsal := { feed := fun _ => "" }
    let stored : Article := ⟨1, 1, "", "a", "", .ofSecond 0, .ofSecond 0⟩
    let table : SharedTable Unit := ⟨[stored], fun _ => none⟩
    let article : String → String → NewArticle := fun title url => ⟨1, title, url, "", .ofSecond 0⟩
    let as := [article "first" "b", article "second" "a", article "third" "b", article "fourth" "c"]
    let refused := [false, false, false, false, true]
    let run := (createAll as).runIn rehearsal.world
    (∃ t added, run (table, []) = (.ok 2, t) ∧ t.1.rows = stored :: added ∧
        added.map Article.toNew = [article "first" "b", article "fourth" "c"]) ∧
      ∃ t, run (table, refused)
        = (.error (.storage (.createArticle "c") (.reported "refused")), t) ∧ t.1 = table := by
  intro rehearsal stored table article as refused run
  have hunique : (urls table.rows).Nodup := List.nodup_singleton _
  have hresult : ((createAll as).runIn rehearsal.world (table, [])).1 = .ok 2 := by cbv
  have hfailure : ((createAll as).runIn rehearsal.world (table, refused)).1
      = .error (.storage (.createArticle "c") (.reported "refused")) := by cbv
  have hall := createAll_atomic rehearsal.keeps_world as (s := (table, [])) rfl hunique
  have hnone := createAll_atomic rehearsal.keeps_world as (s := (table, refused)) rfl hunique
  rcases hrun : (createAll as).runIn rehearsal.world (table, []) with ⟨result, t⟩
  rcases hrefused : (createAll as).runIn rehearsal.world (table, refused) with ⟨failure, u⟩
  rw [hrun] at hresult hall
  rw [hrefused] at hfailure hnone
  obtain rfl : result = .ok 2 := hresult
  obtain rfl : failure = _ := hfailure
  obtain ⟨-, -, added, hrows, -, hadded, -⟩ := hall
  obtain ⟨-, -, hsame⟩ := hnone
  exact ⟨⟨t, added, hrun, hrows, hadded.trans (by decide)⟩, u, hrefused, hsame⟩

end Articles

end FeedArchive
