import FeedArchive.Proofs.Crawl.Course

/-!
# Dividing articles

What becomes of the articles of a feed when those that a store has are left out, whatever the store
answers. `Partition.Divides` says it in terms of the articles and of the keys in the answer, and
`Store.runIn_partitionNew_recorded` that the articles are divided in this way after a single
question, or that the failure is reported and nothing is divided.
-/

namespace FeedArchive

open Attempt (runIn)

/-- The fresh articles are those whose URLs are not among the keys, in order, and the others are
counted. -/
structure Partition.Divides (articles : List NewArticle) (found : List String)
    (parts : Partition) : Prop where
  fresh : parts.fresh = articles.filter fun a => a.url ∉ found
  skipped : parts.skipped = articles.countP fun a => a.url ∈ found
  total : parts.fresh.length + parts.skipped = articles.length
  /-- Articles with the same URL are not told apart. -/
  together : ∀ a ∈ articles, ∀ b ∈ articles, a.url = b.url → (a ∈ parts.fresh ↔ b ∈ parts.fresh)

/-- The division by the keys that were found is one by these keys. -/
theorem Partition.divides_of (articles : List NewArticle) (found : List String) :
    (Partition.of articles found).Divides articles found := by
  have hlength : (articles.filter fun a => a.url ∉ found).length
      + (articles.countP fun a => a.url ∈ found) = articles.length := by
    rw [← List.countP_eq_length_filter, List.length_eq_countP_add_countP fun a => a.url ∈ found,
      Nat.add_comm]
    simp
  refine ⟨rfl, ?_, ?_, ?_⟩
  · simp only [Partition.of]
    omega
  · simp only [Partition.of]
    omega
  · intro a ha b hb hurl
    simp [Partition.of, ha, hb, hurl]

namespace Store

variable {σ : Type} (world : World σ) (s : σ)

/-- Articles are divided by what is found when their URLs are looked up. -/
theorem runIn_partitionNew {articles : List NewArticle} (hne : articles ≠ []) (timeout : Span) :
    let urls := articles.map (·.url)
    let answered := world.answer (.members (distinct urls)) s
    runIn world s (Store.provided.partitionNew articles timeout)
      = if timeout.nanos < answered.1.latency.nanos then
          (.error (.storage (.timeout "URL一括存在確認" timeout)),
            (world.answer (.log (.storeTimedOut "URL一括存在確認" timeout)) answered.2).2)
        else match answered.1.outcome with
          | .error cause => (.error (.storage cause), answered.2)
          | .ok found => (.ok (.of articles found), (world.answer (.log (.lookedUp urls.length
              (distinct urls).length (existing (distinct urls) found).length)) answered.2).2) := by
  intro urls answered
  have hurls : urls ≠ [] := fun h => hne (List.map_eq_nil_iff.mp h)
  rw [partitionNew, Attempt.runIn_bind, runIn_lookUp world s hurls timeout]
  by_cases hlate : timeout.nanos < answered.1.latency.nanos
  · rw [if_pos hlate, if_pos hlate]
  rw [if_neg hlate, if_neg hlate]
  cases houtcome : answered.1.outcome with
  | error cause => rfl
  | ok found =>
    simp only [Attempt.runIn_pure, urls, filter_isNone_lookup_existing]
    rfl

/-- Articles are divided after one question to the store, for their different URLs in the order in
which they first appear, and without a question if there are none. They are divided by the keys in
the answer; a failure and an answer that comes too late leave no part of them divided. -/
theorem runIn_partitionNew_recorded (articles : List NewArticle) (timeout : Span) :
    let run := runIn world.recorded (s, []) (Store.provided.partitionNew articles timeout)
    if articles = [] then run.1 = .ok ⟨[], 0⟩ ∧ run.2.2 = []
    else ∃ unique, run.2.2.filterMap Request.keys? = [unique] ∧
      FirstAppearances (articles.map (·.url)) unique ∧
      let answer := (world.answer (.members unique) s).1
      if timeout.nanos < answer.latency.nanos then
        run.1 = .error (.storage (.timeout "URL一括存在確認" timeout))
      else match answer.outcome with
        | .error cause => run.1 = .error (.storage cause)
        | .ok found => ∃ parts, run.1 = .ok parts ∧ parts.Divides articles found := by
  intro run
  by_cases hnil : articles = []
  · subst hnil
    exact ⟨rfl, rfl⟩
  rw [if_neg hnil]
  have hrun : run = _ := runIn_partitionNew world.recorded (s, []) hnil timeout
  refine ⟨distinct (articles.map (·.url)), ?_, firstAppearances_distinct _, ?_⟩
  · rw [hrun]
    split
    · rfl
    · split
      · rfl
      · rfl
  · intro answer
    by_cases hlate : timeout.nanos < answer.latency.nanos
    · rw [if_pos hlate]
      exact congrArg Prod.fst (hrun.trans (if_pos hlate))
    rw [if_neg hlate]
    replace hrun := hrun.trans (if_neg hlate)
    have houtcome : (world.recorded.answer (.members (distinct (articles.map (·.url))))
        (s, [])).1.outcome = answer.outcome := rfl
    rw [houtcome] at hrun
    cases hanswer : answer.outcome with
    | error cause =>
      rw [hanswer] at hrun
      exact congrArg Prod.fst hrun
    | ok found =>
      rw [hanswer] at hrun
      exact ⟨_, congrArg Prod.fst hrun, Partition.divides_of articles found⟩

end Store

end FeedArchive
