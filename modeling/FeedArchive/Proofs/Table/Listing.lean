import FeedArchive.Program.Stage
import FeedArchive.Proofs.Program.Run
import FeedArchive.Proofs.Table.Decoding
import FeedArchive.Table

/-!
# What becomes of the rows of a listing

A `Listing` asks for the records of a table that satisfy some condition, with one statement. The
rows that come back are all or nothing: if each of them can be read, the listing gives their records
in the order of the rows, and if not, what is wrong with the first row at fault
(`Listing.result_of_rows`).
-/

namespace FeedArchive

open Database

/-! ## Reading one after the other -/

section Except

variable {ε α β : Type} {f : α → Except ε β} {as : List α}

/-- All members of a list are read if each of them is. -/
theorem mapM_eq_ok_iff {bs : List β} :
    as.mapM f = .ok bs ↔ List.Forall₂ (fun a b => f a = .ok b) as bs := by
  induction as generalizing bs with
  | nil => cases bs <;> simp [List.mapM_nil, pure, Except.pure]
  | cons a as ih =>
    rw [List.mapM_cons]
    cases ha : f a with
    | error e => cases bs <;> simp [bind, Except.bind, ha]
    | ok b =>
      cases has : as.mapM f with
      | error e => cases bs <;> simp [bind, Except.bind, ha, ← ih, has]
      | ok bs' => cases bs <;> simp [bind, Except.bind, pure, Except.pure, ha, ← ih, has]

/-- The first failure is reported, whatever comes after it. -/
theorem mapM_eq_error_iff {e : ε} :
    as.mapM f = .error e ↔
      ∃ before a after, as = before ++ a :: after ∧ (∀ x ∈ before, ∃ b, f x = .ok b) ∧
        f a = .error e := by
  induction as with
  | nil => simp [List.mapM_nil, pure, Except.pure]
  | cons a as ih =>
    rw [List.mapM_cons]
    constructor
    · intro h
      cases ha : f a with
      | error e' =>
        simp only [ha, bind, Except.bind, Except.error.injEq] at h
        exact ⟨[], a, as, rfl, nofun, h ▸ ha⟩
      | ok b =>
        cases has : as.mapM f with
        | error e' =>
          simp only [ha, has, bind, Except.bind, Except.error.injEq] at h
          obtain ⟨before, a', after, rfl, hbefore, ha'⟩ := ih.mp (h ▸ has)
          exact ⟨a :: before, a', after, rfl,
            List.forall_mem_cons.mpr ⟨⟨b, ha⟩, hbefore⟩, ha'⟩
        | ok bs => simp [ha, has, bind, Except.bind, pure, Except.pure] at h
    · rintro ⟨before, a', after, heq, hbefore, ha'⟩
      cases before with
      | nil =>
        cases heq
        simp [ha', bind, Except.bind]
      | cons x before =>
        obtain ⟨rfl, rfl⟩ := List.cons.inj heq
        obtain ⟨⟨b, hb⟩, hbefore⟩ := List.forall_mem_cons.mp hbefore
        rw [hb, ih.mpr ⟨before, a', after, rfl, hbefore, ha'⟩]
        rfl

/-- A list can be read if each of its members can. -/
theorem exists_mapM_eq_ok_iff :
    (∃ bs, as.mapM f = .ok bs) ↔ ∀ a ∈ as, ∃ b, f a = .ok b := by
  simp only [mapM_eq_ok_iff]
  constructor
  · rintro ⟨bs, hbs⟩
    induction hbs with
    | nil => exact nofun
    | cons hb _ ih => exact List.forall_mem_cons.mpr ⟨⟨_, hb⟩, ih⟩
  · intro h
    induction as with
    | nil => exact ⟨[], .nil⟩
    | cons a as ih =>
      obtain ⟨⟨b, hb⟩, has⟩ := List.forall_mem_cons.mp h
      obtain ⟨bs, hbs⟩ := ih has
      exact ⟨b :: bs, .cons hb hbs⟩

end Except

/-! ## Listings -/

/-- A question for all records of some sort. -/
inductive Listing where
  | articles
  | articlesWithSource
  | sources
  | activeSources
  | articlesFound (ps : List Predicate)
  | sourcesFound (ps : List Predicate)

namespace Listing

/-- What is listed. -/
abbrev Record : Listing → Type
  | articles | articlesFound _ => Article
  | articlesWithSource => ArticleWithSource
  | sources | activeSources | sourcesFound _ => Source

/-- What is reported when a listing fails. -/
abbrev Fault : Listing → Type
  | articles | articlesWithSource | sources | activeSources => Failure
  | articlesFound _ | sourcesFound _ => StoreError

/-- The program that answers the question. -/
def attempt : (l : Listing) → Attempt l.Fault (List l.Record)
  | articles => Articles.list
  | articlesWithSource => Articles.listWithSource
  | sources => Sources.list
  | activeSources => Sources.listActive
  | articlesFound ps => Articles.search ps
  | sourcesFound ps => Sources.search ps

/-- How the records stand in rows. -/
def form : (l : Listing) → Form l.Record
  | articles | articlesFound _ => .article
  | articlesWithSource => .articleWithSource
  | sources | activeSources | sourcesFound _ => .source

/-- The statement that is sent. -/
def statement : Listing → Statement
  | articles => ⟨Articles.selectCommand [] Articles.latestFirst, []⟩
  | articlesWithSource =>
    ⟨Articles.joinedCommand [] [("a.published_at", .descending), ("a.id", .descending)], []⟩
  | sources => ⟨Sources.selectCommand [] [("id", .unwritten)], []⟩
  | activeSources => ⟨Sources.selectCommand [.isTrue "active"] [("id", .unwritten)], []⟩
  | articlesFound ps => Articles.searchStatement ps
  | sourcesFound ps => Sources.searchStatement ps

/-- How a failure of the database is reported. -/
def report : (l : Listing) → Database.Error → l.Fault
  | articles => .storage .listArticles
  | articlesWithSource => .storage .listArticlesWithSource
  | sources => .storage .listSources
  | activeSources => .storage .listActiveSources
  | articlesFound _ => .query "記事の検索"
  | sourcesFound _ => .query "配信元の検索"

/-- A listing sends its statement and reads every row that comes back. -/
theorem attempt_eq (l : Listing) :
    l.attempt = (fetchAll l.statement l.form.read).mapError l.report := by
  cases l <;> rfl

variable {σ : Type} {world : World σ} {s : σ} {rows : List Row}

/-- Rows that are rearranged are read as the same records, or fail in the same way. -/
theorem mapM_rearranged {l : Listing} {rows rows' : List Row}
    (h : List.Forall₂ l.form.shape.Rearranges rows rows') :
    rows'.mapM l.form.read = rows.mapM l.form.read := by
  induction h with
  | nil => rfl
  | cons hr _ ih => rw [List.mapM_cons, List.mapM_cons, l.form.read_rearranged hr, ih]

/-- The rows alone decide what a listing comes to. -/
theorem runIn_attempt (l : Listing) (hrows : (world.answer (.rows l.statement) s).1 = .ok rows) :
    (Attempt.runIn world s l.attempt).1 = (rows.mapM l.form.read).mapError l.report := by
  rw [attempt_eq, Attempt.runIn_mapError, runIn_fetchAll, hrows]
  rfl

/-- Whatever rows the database returns, a listing gives the records of all of them, in their order,
or it fails for the first row that cannot be read, at its first column at fault. The order of the
columns in a row, and columns that are not read, make no difference. -/
theorem result_of_rows (l : Listing) (world : World σ) (s : σ) (rows : List Row)
    (hrows : (world.answer (.rows l.statement) s).1 = .ok rows) :
    (∀ records, (Attempt.runIn world s l.attempt).1 = .ok records ↔
      List.Forall₂ (fun r a => ∀ x ∈ l.form.row a, r.lookup x.1 = some x.2) rows records) ∧
    ((∃ records, (Attempt.runIn world s l.attempt).1 = .ok records) ↔
      ∀ r ∈ rows, l.form.shape.Fits r) ∧
    (∀ fault, (Attempt.runIn world s l.attempt).1 = .error fault ↔
      ∃ before r after cause, rows = before ++ r :: after ∧
        (∀ r' ∈ before, l.form.shape.Fits r') ∧ l.form.shape.Faults r cause ∧
        fault = l.report cause) ∧
    ∀ {τ : Type} (world' : World τ) (s' : τ) (rows' : List Row),
      (world'.answer (.rows l.statement) s').1 = .ok rows' →
      List.Forall₂ l.form.shape.Rearranges rows rows' →
      (Attempt.runIn world' s' l.attempt).1 = (Attempt.runIn world s l.attempt).1 := by
  -- other words for a failure change neither whether rows are read nor which one fails
  have hok : ∀ records, (rows.mapM l.form.read).mapError l.report = .ok records ↔
      rows.mapM l.form.read = .ok records := fun records => by
    cases rows.mapM l.form.read <;> simp [Except.mapError]
  have herror : ∀ fault, (rows.mapM l.form.read).mapError l.report = .error fault ↔
      ∃ cause, rows.mapM l.form.read = .error cause ∧ fault = l.report cause := fun fault => by
    cases rows.mapM l.form.read <;> simp [Except.mapError, eq_comm]
  simp only [l.runIn_attempt hrows]
  refine ⟨fun records => ?_, ?_, fun fault => ?_, fun world' s' rows' hrows' hrearranged => ?_⟩
  · rw [hok, mapM_eq_ok_iff]
    simp only [l.form.read_eq_ok_iff]
  · simp only [hok, Form.fits_iff]
    exact exists_mapM_eq_ok_iff
  · rw [herror]
    simp only [mapM_eq_error_iff, Form.fits_iff, l.form.read_eq_error_iff]
    constructor
    · rintro ⟨cause, ⟨before, r, after, hsplit, hbefore, hcause⟩, hfault⟩
      exact ⟨before, r, after, cause, hsplit, hbefore, hcause, hfault⟩
    · rintro ⟨before, r, after, cause, hsplit, hbefore, hcause, hfault⟩
      exact ⟨cause, ⟨before, r, after, hsplit, hbefore, hcause⟩, hfault⟩
  · rw [l.runIn_attempt hrows', mapM_rearranged hrearranged]

/-- Of two sources the first one has its columns in another order and one more. It alone is listed;
the second one lacks a column and has an unknown kind, which comes first. -/
theorem result_of_rows_fault :
    let world := Stage.world { now := .ofSecond 0 }
    let shuffled : Row := [("active", .bool true), ("name", .text "b"), ("seen", .null),
      ("source_type", .text "RSS"), ("feed_url", .text "u"), ("last_crawled_at", .null),
      ("id", .int 2)]
    let faulty : Row := [("id", .int 1), ("name", .text "a"), ("feed_url", .text "v"),
      ("source_type", .text "Atom"), ("last_crawled_at", .null)]
    (Attempt.runIn world [.rows [shuffled]] sources.attempt).1
        = .ok [⟨2, "b", "u", .rss, true, none⟩] ∧
      (Attempt.runIn world [.rows [shuffled, faulty]] sources.attempt).1
        = .error (.storage .listSources (.badCell (.named "source_type")
            (.invalid ⟨"source_type", "Atom", ["RSS", "Webflow", "NextJS", "Remix"]⟩))) := by
  intro world shuffled faulty
  have hshuffled : sources.form.shape.Fits shuffled :=
    Form.fits_iff.mpr ⟨⟨2, "b", "u", .rss, true, none⟩, rfl⟩
  have hall := sources.result_of_rows world [.rows [shuffled]] [shuffled] rfl
  have hfault := sources.result_of_rows world [.rows [shuffled, faulty]] [shuffled, faulty] rfl
  refine ⟨(hall.1 _).mpr (.cons ?_ .nil), (hfault.2.2.1 _).mpr
    ⟨[shuffled], faulty, [], _, rfl, List.forall_mem_singleton.mpr hshuffled, ?_, rfl⟩⟩
  · decide
  · refine .later rfl (.int 1) (.later rfl (.text "a") (.later rfl (.text "v") (.refused rfl ?_)))
    exact .unknownName fun t => by cases t <;> decide

end Listing

end FeedArchive
