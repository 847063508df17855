import DesignTokens.Catalog.Basic
import DesignTokens.Proofs.EndlessRecords
import Mathlib.Tactic.ByContra

/-!
# Files that are refused

A token file that cannot be opened, breaks the grammar or holds a record with issues is refused.
Three more things may go wrong in it: the system cannot be asked about its path, its document is
faulty in another way than by its grammar, or a field that is checked holds itself. Main
statements: reading a token file gives what it holds or refuses it exactly when none of the three
does, and a text that is not UTF-8 is never refused.

A listing gathers what the files hold that are not refused. Main statement: it ends with the first
file that is neither read nor refused, and if there is none it tells once of each refused file.
-/

namespace DesignTokens

/-! ## One file -/

/-- Reading ends with a value, or the file is refused. -/
def IsContained {α : Type} (outcome : Except LoadError α) : Prop :=
  ∀ error, outcome = .error error → ∃ refusal, error = .refused refusal

section IsContained

variable {α : Type}

theorem isContained_ok (value : α) : IsContained (.ok value) := by
  intro error h
  cases h

theorem isContained_refused (refusal : Refusal) :
    IsContained (α := α) (.error (.refused refusal)) := by
  intro error h
  cases h
  exact ⟨refusal, rfl⟩

/-- A contained outcome is a value or a refusal. -/
theorem isContained_iff {outcome : Except LoadError α} :
    IsContained outcome ↔
      (∃ value, outcome = .ok value) ∨ ∃ refusal, outcome = .error (.refused refusal) := by
  constructor
  · intro h
    cases outcome with
    | ok value => exact Or.inl ⟨value, rfl⟩
    | error error =>
        obtain ⟨refusal, rfl⟩ := h error rfl
        exact Or.inr ⟨refusal, rfl⟩
  · rintro (⟨value, rfl⟩ | ⟨refusal, rfl⟩)
    · exact isContained_ok value
    · exact isContained_refused refusal

end IsContained

/-- The document that a file holds. -/
def FileContent.parse : FileContent → Yaml.Read Datum
  | .document value => .ok value
  | .text content => Yaml.parse content
  | .bytes content => Yaml.parseBytes content

/-- Nothing is wrong with the content of a token file but what the file is refused for: its
document has no fault but in its grammar, and where it is a record, no field that is checked holds
itself. -/
structure FileContent.IsSound (purpose : FilePurpose) (content : FileContent) : Prop where
  grammar : ∀ fault, content.parse = .error fault → fault = .malformed
  record : ∀ entries, content.parse = .ok (.map entries) → ¬ IsEndlessRecord purpose entries

/-! ### Texts that are not UTF-8 -/

theorem Text.length_normalizeBreaks_le (text : List Char) :
    (Text.normalizeBreaks text).length ≤ text.length := by
  fun_induction Text.normalizeBreaks text <;>
    simp only [List.length_cons, List.length_nil] <;> omega

namespace Yaml

/-- Fewer than two portions of a text are looked at only when the text is there to its end. -/
theorem wholePortions_of_lt {count : Nat} (h : count < 2 * portionSize) (text : List Char) :
    wholePortions count text = [] := by
  have hportions : count / portionSize < 2 := Nat.div_lt_of_lt_mul (by rwa [Nat.mul_comm])
  simp [wholePortions, hportions]

/-- Where nothing is looked at, the text is read as far as its fault. -/
theorem ofTokens_tokenize_nil (fault : DocumentError) :
    ofTokens (tokenize [] (some fault)) = .error fault := rfl

/-- Bytes that go wrong in the first two portions of their text have no datum but this fault. -/
theorem parseBytes_of_decode_error {bytes : List UInt8} {error : Text.Utf8Error}
    (h : (Text.decode bytes).error = some error) (hbefore : error.before < 2 * portionSize) :
    parseBytes bytes = .error (.notUnicode error) := by
  have hlength : (Text.normalizeBreaks ((Text.decode bytes).text.take error.before)).length <
      2 * portionSize :=
    calc
      _ ≤ ((Text.decode bytes).text.take error.before).length := Text.length_normalizeBreaks_le _
      _ ≤ error.before := List.length_take_le _ _
      _ < 2 * portionSize := hbefore
  unfold parseBytes
  simp only [h, wholePortions_of_lt hlength, ofTokens_tokenize_nil]

end Yaml

namespace FileTree

variable {files : FileTree} {purpose : FilePurpose} {path : Path}

/-- Nothing goes wrong in a token file but what it is refused for: the system can be asked about
its path, and what is read there is sound. -/
structure IsReadable (files : FileTree) (purpose : FilePurpose) (path : Path) : Prop where
  named : unnamable? path = none
  content : ∀ content, files.read path = .ok content → content.IsSound purpose

theorem datum_eq_parse (content : FileContent) :
    content.datum purpose path =
      content.parse.mapError (FileContent.datum.refuse purpose path) := by
  cases content <;> rfl

theorem refuse_eq_refused_iff {fault : Yaml.DocumentError} :
    (∃ refusal, FileContent.datum.refuse purpose path fault = .refused refusal) ↔
      fault = .malformed := by
  cases fault <;> simp [FileContent.datum.refuse]

/-- A file that can be asked for is read, or the system tells why not. -/
theorem read_cases (files : FileTree) (h : unnamable? path = none) :
    (∃ content, files.read path = .ok content) ∨
      ∃ fault, files.read path = .error (.system fault path) := by
  unfold read
  rw [h]
  cases files.find path with
  | error fault => exact Or.inr ⟨fault, rfl⟩
  | ok found =>
      obtain ⟨place, item⟩ := found
      cases item with
      | file content => exact Or.inl ⟨content, rfl⟩
      | directory => exact Or.inr ⟨_, rfl⟩

theorem readRecord_of_unnamable {error : FileError} (h : unnamable? path = some error) :
    files.readRecord purpose path = .error (.path error) := by
  have hread : files.read path = .error error := by
    unfold read
    rw [h]
  unfold readRecord
  rw [hread]
  cases error with
  | system fault other =>
      unfold unnamable? at h
      split at h
      · cases h
      · split at h <;> cases h
  | zeroInName => rfl
  | surrogates run => rfl

theorem readRecord_of_fault {fault : FileFault}
    (h : files.read path = .error (.system fault path)) :
    files.readRecord purpose path = .error (.refused (.unreadable purpose path fault)) := by
  unfold readRecord
  rw [h]

/-- The record of a file that is read is judged by its document. -/
theorem isContained_readRecord_of_read {content : FileContent}
    (h : files.read path = .ok content) :
    IsContained (files.readRecord purpose path) ↔
      ∀ fault, content.parse = .error fault → fault = .malformed := by
  unfold readRecord
  simp only [h, datum_eq_parse]
  cases hparse : content.parse with
  | error fault =>
      simp only [Except.mapError, Except.error.injEq, forall_eq']
      constructor
      · intro hcontained
        exact refuse_eq_refused_iff.mp (hcontained _ rfl)
      · rintro hgrammar error herror
        cases herror
        exact refuse_eq_refused_iff.mpr hgrammar
  | ok value =>
      simp only [Except.mapError, reduceCtorEq, false_implies, implies_true, iff_true]
      split
      · rename_i heq
        cases heq
      · exact isContained_ok _
      · exact isContained_refused _

/-- The record of a file is read or refused exactly when the system can be asked about the path
and the document has no fault but in its grammar. -/
theorem isContained_readRecord_iff :
    IsContained (files.readRecord purpose path) ↔
      unnamable? path = none ∧
        ∀ content fault, files.read path = .ok content → content.parse = .error fault →
          fault = .malformed := by
  cases hname : unnamable? path with
  | some error =>
      simp only [reduceCtorEq, false_and, iff_false]
      intro hcontained
      obtain ⟨refusal, hrefused⟩ := hcontained _ (readRecord_of_unnamable hname)
      cases hrefused
  | none =>
      rcases read_cases files hname with ⟨content, hread⟩ | ⟨fault, hread⟩
      · simp only [isContained_readRecord_of_read hread, hread, Except.ok.injEq, true_and]
        exact ⟨fun h other fault hsame => hsame ▸ h fault, fun h fault => h content fault rfl⟩
      · rw [readRecord_of_fault hread, hread]
        simp [isContained_refused]

/-- The record of a file is the mapping that its content has at the top. -/
theorem readRecord_eq_ok_iff {entries : List (Scalar × Datum)} :
    files.readRecord purpose path = .ok entries ↔
      ∃ content, files.read path = .ok content ∧ content.parse = .ok (.map entries) := by
  unfold readRecord
  cases files.read path with
  | error error => cases error <;> simp
  | ok content =>
      simp only [Except.ok.injEq, exists_eq_left', datum_eq_parse]
      cases content.parse with
      | error fault => simp [Except.mapError]
      | ok value => cases value <;> simp [Except.mapError]

/-- What is made of a record that is checked: a value, or a refusal that tells of the issues. -/
def judge {R α : Type} (record : Except LoadError (List (Scalar × Datum)))
    (check : List (Scalar × Datum) → Except (List (Issue R)) α)
    (refusal : List (Issue R) → Refusal) : Except LoadError α :=
  match record with
  | .error error => .error error
  | .ok entries =>
      match check entries with
      | .ok value => .ok value
      | .error issues =>
          if issues.any Issue.isEndless then .error .endless
          else .error (.refused (refusal issues))

/-- A record is judged to an end when it is read or refused and its check is not without end. -/
theorem isContained_judge_iff {R α : Type} {record : Except LoadError (List (Scalar × Datum))}
    {check : List (Scalar × Datum) → Except (List (Issue R)) α}
    {refusal : List (Issue R) → Refusal} :
    IsContained (judge record check refusal) ↔ IsContained record ∧
      ∀ entries, record = .ok entries → ¬ Checked.IsEndless (check entries) := by
  unfold Checked.IsEndless
  cases record with
  | error error => simp [judge, IsContained]
  | ok entries =>
      simp only [isContained_ok, Except.ok.injEq, forall_eq', true_and, judge]
      cases check entries with
      | ok value => simp [isContained_ok]
      | error issues =>
          by_cases hends : issues.any Issue.isEndless = true
          · simp only [hends, if_true, Except.error.injEq, exists_eq_left', not_true_eq_false,
              iff_false]
            intro hcontained
            obtain ⟨refusal, hrefused⟩ := hcontained _ rfl
            cases hrefused
          · rw [Bool.not_eq_true] at hends
            simp only [hends, Bool.false_eq_true, if_false, Except.error.injEq, exists_eq_left',
              not_false_eq_true, iff_true]
            exact isContained_refused _

theorem loadStore_eq_judge (files : FileTree) (path : Path) :
    files.loadStore path = judge (files.readRecord .store path)
      (fun entries => TokenStore.ofSource (withDefault "name" path.stem entries))
      .invalidStore := by
  unfold loadStore judge
  cases files.readRecord .store path with
  | error error => rfl
  | ok entries =>
      dsimp only
      cases TokenStore.ofSource (withDefault "name" path.stem entries) <;> rfl

theorem loadBrand_eq_judge (files : FileTree) (path : Path) :
    files.loadBrand path = judge (files.readRecord .brand path)
      (fun entries => BrandTheme.ofSource
        (withDefault "name" path.stem (withDefault "id" path.stem entries)))
      (.invalidBrand path) := by
  unfold loadBrand judge
  cases files.readRecord .brand path with
  | error error => rfl
  | ok entries =>
      dsimp only
      cases BrandTheme.ofSource
        (withDefault "name" path.stem (withDefault "id" path.stem entries)) <;> rfl

theorem isReadable_iff :
    files.IsReadable purpose path ↔ IsContained (files.readRecord purpose path) ∧
      ∀ entries, files.readRecord purpose path = .ok entries →
        ¬ IsEndlessRecord purpose entries := by
  rw [isContained_readRecord_iff]
  simp only [readRecord_eq_ok_iff]
  constructor
  · intro h
    refine ⟨⟨h.named, fun content fault hread => (h.content content hread).grammar fault⟩, ?_⟩
    rintro entries ⟨content, hread, hparse⟩
    exact (h.content content hread).record entries hparse
  · rintro ⟨⟨hnamed, hgrammar⟩, hrecord⟩
    refine ⟨hnamed, fun content hread => ⟨fun fault => hgrammar content fault hread, ?_⟩⟩
    intro entries hparse
    exact hrecord entries ⟨content, hread, hparse⟩

/-- Reading a store gives it or refuses the file exactly where nothing else goes wrong. -/
theorem isContained_loadStore_iff :
    IsContained (files.loadStore path) ↔ files.IsReadable .store path := by
  have hcheck (entries : List (Scalar × Datum)) :
      Checked.IsEndless (TokenStore.ofSource (withDefault "name" path.stem entries)) ↔
        IsEndlessRecord .store entries := by
    rw [TokenStore.isEndless_ofSource_iff_record, isEndlessRecord_withDefault_iff (by decide)]
  rw [loadStore_eq_judge, isContained_judge_iff, isReadable_iff]
  simp only [hcheck]

/-- Reading a brand theme gives it or refuses the file exactly where nothing else goes wrong. -/
theorem isContained_loadBrand_iff :
    IsContained (files.loadBrand path) ↔ files.IsReadable .brand path := by
  have hcheck (entries : List (Scalar × Datum)) :
      Checked.IsEndless (BrandTheme.ofSource
        (withDefault "name" path.stem (withDefault "id" path.stem entries))) ↔
        IsEndlessRecord .brand entries := by
    rw [BrandTheme.isEndless_ofSource_iff_record, isEndlessRecord_withDefault_iff (by decide),
      isEndlessRecord_withDefault_iff (by decide)]
  rw [loadBrand_eq_judge, isContained_judge_iff, isReadable_iff]
  simp only [hcheck]

/-- A store that is read has custom properties that do not clash. -/
theorem checkNames_of_loadStore {store : TokenStore} (h : files.loadStore path = .ok store) :
    store.checkNames = .ok () := by
  unfold loadStore at h
  split at h
  · cases h
  · split at h
    · rename_i hsource
      cases h
      exact (TokenStore.checkNames_of_ofSource hsource).2
    · split at h <;> cases h

/-- A record that is not read gives no store and no brand theme either. -/
theorem loads_of_readRecord_error {error : LoadError}
    (h : ∀ purpose, files.readRecord purpose path = .error error) :
    files.loadStore path = .error error ∧ files.loadBrand path = .error error := by
  rw [loadStore_eq_judge, loadBrand_eq_judge, h .store, h .brand]
  exact ⟨rfl, rfl⟩

/-- A text that is not UTF-8 is not refused: reading it ends with the fault of its bytes, where
this is found before the first two portions of the text are full. -/
theorem loads_of_not_utf8 {bytes : List UInt8} {error : Text.Utf8Error}
    (hread : files.read path = .ok (.bytes bytes)) (herror : (Text.decode bytes).error = some error)
    (hbefore : error.before < 2 * Yaml.portionSize) :
    files.loadStore path = .error (.value (.notUnicode error)) ∧
      files.loadBrand path = .error (.value (.notUnicode error)) := by
  apply loads_of_readRecord_error
  intro purpose
  unfold readRecord
  simp only [hread, datum_eq_parse, FileContent.parse,
    Yaml.parseBytes_of_decode_error herror hbefore]
  rfl

end FileTree

/-! ## Many files -/

section Collect

variable {α : Type} {start : String} {load : Path → Except LoadError α} {paths : List Path}

/-- What is told of a file that is passed over. -/
def passedOver (start : String) (path : Path) (refusal : Refusal) : Notice :=
  ⟨.warning, s!"{start}{path.name}: {refusal.message}"⟩

/-- What is told of a file: nothing unless it is refused. -/
def warning? (start : String) (load : Path → Except LoadError α) (path : Path) : Option Notice :=
  match load path with
  | .error (.refused refusal) => some (passedOver start path refusal)
  | _ => none

/-- Reads a file of a listing; none, with a warning, if it is refused. -/
def attempt (start : String) (load : Path → Except LoadError α) (path : Path) :
    Except LoadError (Option α) × List Notice :=
  match load path with
  | .ok value => (.ok (some value), [])
  | .error (.refused refusal) => (.ok none, [passedOver start path refusal])
  | .error error => (.error error, [])

/-- How the notice about a store that is passed over starts. -/
def storeNotice : String := "Ignoring token store "

/-- How the notice about a brand theme that is passed over starts. -/
def brandNotice : String := "Ignoring brand theme "

theorem tryStore_eq_attempt (files : FileTree) :
    tryStore files = attempt storeNotice files.loadStore := by
  funext path
  unfold tryStore attempt
  cases files.loadStore path with
  | ok store => rfl
  | error error => cases error <;> rfl

theorem tryBrand_eq_attempt (files : FileTree) :
    tryBrand files = attempt brandNotice files.loadBrand := by
  funext path
  unfold tryBrand attempt
  cases files.loadBrand path with
  | ok brand => rfl
  | error error => cases error <;> rfl

/-- A contained file is gathered or told of, and the listing goes on. -/
theorem collect_attempt_cons {path : Path} (h : IsContained (load path)) (rest : List Path) :
    collect (attempt start load) (path :: rest) =
      ((collect (attempt start load) rest).1.map ((load path).toOption.toList ++ ·),
        (warning? start load path).toList ++ (collect (attempt start load) rest).2) := by
  rw [collect, attempt, warning?]
  rcases isContained_iff.mp h with ⟨value, hvalue⟩ | ⟨refusal, hrefused⟩
  · rw [hvalue]
    rfl
  · rw [hrefused]
    rfl

/-- Where every file is read or refused, the listing gathers those that are read in their order
and tells once of each other one. -/
theorem collect_attempt_of_isContained (h : ∀ path ∈ paths, IsContained (load path)) :
    collect (attempt start load) paths =
      (.ok (paths.filterMap fun path => (load path).toOption),
        paths.filterMap (warning? start load)) := by
  induction paths with
  | nil => rfl
  | cons path rest ih =>
      rw [List.forall_mem_cons] at h
      rw [collect_attempt_cons h.1, ih h.2, List.filterMap_cons, List.filterMap_cons]
      cases (load path).toOption <;> cases warning? start load path <;> rfl

/-- The first file that is neither read nor refused ends the listing, and nothing is gathered. -/
theorem collect_attempt_of_stop (start : String) {front : List Path} {path : Path}
    {error : LoadError} (hfront : ∀ earlier ∈ front, IsContained (load earlier))
    (hload : load path = .error error) (herror : ∀ refusal, error ≠ .refused refusal)
    (rest : List Path) :
    collect (attempt start load) (front ++ path :: rest) =
      (.error error, front.filterMap (warning? start load)) := by
  induction front with
  | nil =>
      rw [List.nil_append, collect, attempt, hload]
      cases error with
      | refused refusal => exact absurd rfl (herror refusal)
      | _ => rfl
  | cons earlier front ih =>
      rw [List.forall_mem_cons] at hfront
      rw [List.cons_append, collect_attempt_cons hfront.1, ih hfront.2, List.filterMap_cons]
      cases warning? start load earlier <;> rfl

/-- A listing is complete exactly when every file is read or refused. -/
theorem collect_attempt_eq_ok_iff (start : String) :
    (∃ values, (collect (attempt start load) paths).1 = .ok values) ↔
      ∀ path ∈ paths, IsContained (load path) := by
  constructor
  · rintro ⟨values, hvalues⟩
    induction paths generalizing values with
    | nil => exact fun path hpath => absurd hpath List.not_mem_nil
    | cons path rest ih =>
        have hpath : IsContained (load path) := by
          intro error herror
          by_contra hrefused
          have hnone : ∀ earlier ∈ [], IsContained (load earlier) :=
            fun earlier hearlier => absurd hearlier List.not_mem_nil
          have hstop := collect_attempt_of_stop start hnone herror
            (fun refusal hsame => hrefused ⟨refusal, hsame⟩) rest
          rw [List.nil_append] at hstop
          rw [hstop] at hvalues
          cases hvalues
        rw [collect_attempt_cons hpath] at hvalues
        rw [List.forall_mem_cons]
        refine ⟨hpath, ?_⟩
        cases hrest : (collect (attempt start load) rest).1 with
        | error error =>
            rw [hrest] at hvalues
            cases hvalues
        | ok others => exact ih others hrest
  · intro h
    rw [collect_attempt_of_isContained h]
    exact ⟨_, rfl⟩

/-- Refused files that are left out change nothing of what is gathered. -/
theorem collect_attempt_filter {keep : Path → Bool}
    (h : ∀ path ∈ paths, keep path = false → ∃ refusal, load path = .error (.refused refusal)) :
    (collect (attempt start load) (paths.filter keep)).1 =
      (collect (attempt start load) paths).1 := by
  induction paths with
  | nil => rfl
  | cons path rest ih =>
      rw [List.forall_mem_cons] at h
      specialize ih h.2
      cases hkeep : keep path with
      | true =>
          rw [List.filter_cons_of_pos hkeep, collect, collect]
          cases attempt start load path with
          | mk outcome notices =>
              cases outcome with
              | error error => rfl
              | ok found => simp only [ih]
      | false =>
          obtain ⟨refusal, hrefused⟩ := h.1 hkeep
          have hcontained : IsContained (load path) := hrefused ▸ isContained_refused refusal
          rw [List.filter_cons_of_neg (by rw [hkeep]; exact Bool.false_ne_true),
            collect_attempt_cons hcontained, hrefused, ih]
          cases (collect (attempt start load) rest).1 <;> rfl

/-- Listings of files that are read alike are alike. -/
theorem collect_attempt_congr {other : Path → Except LoadError α}
    (h : ∀ path ∈ paths, load path = other path) :
    collect (attempt start load) paths = collect (attempt start other) paths := by
  induction paths with
  | nil => rfl
  | cons path rest ih =>
      rw [List.forall_mem_cons] at h
      have hpath : attempt start load path = attempt start other path := by
        rw [attempt, attempt, h.1]
      rw [collect, collect, hpath, ih h.2]

end Collect

end DesignTokens
