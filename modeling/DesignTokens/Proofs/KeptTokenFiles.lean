import DesignTokens.Proofs.ContainedListings
import DesignTokens.Proofs.ServedCalls

/-!
# Token files that are kept

In a tree in which what lies at a place lies in a directory, every walk ends at a directory or
directly below one, so what is made or written keeps the tree like that. A stylesheet has not the
name of a token file, and the built-in store is only put where nothing lies. Main statement: over
every run of calls a token file keeps what it holds, the only one that appears is the copy of the
built-in store, and that at most once. A call that fails changes no file, but that a stylesheet with
lone surrogates leaves an empty one.
-/

namespace DesignTokens

/-! ## Data that are read as they are written -/

/-- A character leaves its bytes in a text. -/
theorem Text.mem_bytes_of_mem {s : String} {c : Char} {byte : UInt8} (hc : c ∈ s.toList)
    (hbyte : byte ∈ String.utf8EncodeChar c) : byte ∈ s.toByteArray.data.toList := by
  rw [← String.ofList_toList (s := s), String.toByteArray_ofList, List.utf8Encode,
    List.data_toByteArray, List.toList_toArray]
  exact List.mem_flatMap.mpr ⟨c, hc, hbyte⟩

/-- A pair with a new name is written behind the others. -/
theorem Datum.putKey_of_new {α : Type} {key : Scalar} {entries : List (Scalar × α)}
    (h : ∀ entry ∈ entries, entry.1.sameKey key = false) (value : α) :
    putKey key value entries = entries ++ [(key, value)] := by
  induction entries with
  | nil => rfl
  | cons entry rest ih =>
      rw [List.forall_mem_cons] at h
      rw [putKey, h.1, if_neg Bool.false_ne_true, ih h.2, List.cons_append]

/-- Pairs with names that are all different are written one behind the other. -/
theorem Datum.foldl_putKey_of_pairwise {α : Type} {pairs : List (Scalar × α)}
    (entries : List (Scalar × α))
    (h : (entries ++ pairs).Pairwise fun first second => first.1.sameKey second.1 = false) :
    pairs.foldl (fun entries pair => putKey pair.1 pair.2 entries) entries = entries ++ pairs := by
  induction pairs generalizing entries with
  | nil => rw [List.foldl_nil, List.append_nil]
  | cons pair rest ih =>
      have hnew : ∀ entry ∈ entries, entry.1.sameKey pair.1 = false :=
        fun entry hentry => (List.pairwise_append.mp h).2.2 entry hentry pair List.mem_cons_self
      rw [List.foldl_cons, putKey_of_new hnew]
      rw [← List.singleton_append, ← List.append_assoc] at h
      rw [ih _ h, List.append_assoc, List.singleton_append]

namespace Yaml

/-- The first byte of a next line is not in a text. -/
def isKeptScalar : Scalar → Bool
  | .text s => s.toByteArray.data.toList.all fun byte => byte.toNat != 0xc2
  | _ => true

theorem rereadScalar_of_isKeptScalar {value : Scalar} (h : isKeptScalar value = true) :
    rereadScalar value = value := by
  cases value with
  | text s =>
      have hline : nextLine ∉ s.toList := by
        intro hmem
        have hbyte : 0xc2 ∈ String.utf8EncodeChar nextLine := by decide
        have hfree := List.all_eq_true.mp h _ (Text.mem_bytes_of_mem hmem hbyte)
        revert hfree
        decide
      rw [rereadScalar, rereadText_eq_self hline]
  | _ => rfl

mutual

/-- No text has the first byte of a next line, and the names of every mapping are different. -/
def isKept : Datum → Bool
  | .scalar value => isKeptScalar value
  | .map entries => areKept entries
  | _ => true

/-- The same of the entries of a mapping. -/
def areKept : List (Scalar × Datum) → Bool
  | [] => true
  | (key, value) :: rest =>
      isKeptScalar key && rest.all (fun other => !key.sameKey other.1) && isKept value &&
        areKept rest

end

theorem pairwise_of_areKept {entries : List (Scalar × Datum)} (h : areKept entries = true) :
    entries.Pairwise fun first second => first.1.sameKey second.1 = false := by
  induction entries with
  | nil => exact List.Pairwise.nil
  | cons entry rest ih =>
      simp only [areKept, Bool.and_eq_true, List.all_eq_true, Bool.not_eq_true'] at h
      exact List.pairwise_cons.mpr ⟨h.1.1.2, ih h.2⟩

mutual

/-- Data without next lines and without doubled names are read as they were written. -/
theorem reread_of_isKept : ∀ {datum : Datum}, isKept datum = true → reread datum = datum
  | .scalar value, h => by
      rw [reread, rereadScalar_of_isKeptScalar h]
  | .map entries, h => by
      rw [isKept] at h
      have hpairs := Datum.foldl_putKey_of_pairwise [] (pairwise_of_areKept h)
      rw [reread, rereadEntries_of_areKept h, Datum.ofPairs, hpairs, List.nil_append]
  | .list _, _ => rfl
  | .set _, _ => rfl
  | .node _, _ => rfl
  | .endless, _ => rfl

theorem rereadEntries_of_areKept :
    ∀ {entries : List (Scalar × Datum)}, areKept entries = true → rereadEntries entries = entries
  | [], _ => rfl
  | (key, value) :: rest, h => by
      simp only [areKept, Bool.and_eq_true] at h
      rw [rereadEntries, rereadScalar_of_isKeptScalar h.1.1.1, reread_of_isKept h.1.2,
        rereadEntries_of_areKept h.2]

end

theorem reread_builtin : reread Builtin.store.toDatum = Builtin.store.toDatum :=
  reread_of_isKept (by decide +kernel)

end Yaml

/-! ## Trees without loose ends -/

namespace FileTree

variable {tree before after : FileTree} {path directory : Path} {place target : Place}
  {names : List String}

/-- Nothing changes but that directories appear. -/
def OnlyAddsDirectories (before after : FileTree) : Prop :=
  ∃ depth, Grows depth before after

/-- What making one directory keeps, making all directories of a path keeps. -/
theorem makeDirectories_induction {motive : FileTree → Prop}
    (hensure : ∀ names tree, motive tree →
      motive (tree.ensureDirectory { path with parts := names }).2)
    (h : motive tree) : motive (tree.makeDirectories path).2 := by
  have hmake (names : List String) (tree : FileTree) (h : motive tree) :
      motive (makeAll path.start names tree).2 := by
    induction names generalizing tree with
    | nil => exact hensure [] tree h
    | cons name above ih =>
        have hfirst := hensure (name :: above).reverse tree h
        rcases makeAll_cons_cases path.start name above tree with
          ⟨hdone, -⟩ | ⟨other, middle, hmissing, hrest⟩
        · rw [hdone]
          exact hfirst
        · rw [hmissing] at hfirst
          have hsecond := ih middle hfirst
          rcases hrest with ⟨last, hmade, hdone⟩ | ⟨error, last, hmade, hdone⟩
          · rw [hmade] at hsecond
            rw [hdone]
            exact hensure _ last hsecond
          · rw [hmade] at hsecond
            rw [hdone]
            exact hsecond
  exact hmake path.parts.reverse tree h

namespace OnlyAddsDirectories

theorem refl (tree : FileTree) : OnlyAddsDirectories tree tree := ⟨0, Grows.refl 0 tree⟩

theorem trans {between : FileTree} (h : OnlyAddsDirectories before between)
    (hnext : OnlyAddsDirectories between after) : OnlyAddsDirectories before after := by
  obtain ⟨depth, h⟩ := h
  obtain ⟨more, hnext⟩ := hnext
  exact ⟨max depth more,
    (h.mono (Nat.le_max_left _ _)).trans (hnext.mono (Nat.le_max_right _ _))⟩

theorem item (h : OnlyAddsDirectories before after) (place : Place) :
    after.item? place = before.item? place ∨
      before.item? place = none ∧ after.item? place = some .directory := by
  obtain ⟨depth, h⟩ := h
  rcases h.item place with hsame | ⟨hnone, hadded, -⟩
  · exact Or.inl hsame
  · exact Or.inr ⟨hnone, hadded⟩

theorem keepsDirectories (h : OnlyAddsDirectories before after) :
    KeepsDirectories before after := by
  obtain ⟨depth, h⟩ := h
  exact h.keepsDirectories

end OnlyAddsDirectories

theorem onlyAddsDirectories_ensureDirectory (tree : FileTree) (path : Path) :
    OnlyAddsDirectories tree (tree.ensureDirectory path).2 :=
  ⟨_, grows_ensureDirectory fun _ => length_le_of_follow⟩

/-- Making the directories of a path only adds directories, wherever it starts. -/
theorem onlyAddsDirectories_makeDirectories (tree : FileTree) (path : Path) :
    OnlyAddsDirectories tree (tree.makeDirectories path).2 :=
  makeDirectories_induction (motive := OnlyAddsDirectories tree)
    (fun _ middle h => h.trans (onlyAddsDirectories_ensureDirectory middle _))
    (OnlyAddsDirectories.refl tree)

/-- A walk through directories ends at a directory or directly below one. -/
theorem IsRooted.parent_of_follow (h : tree.IsRooted)
    (hplace : tree.item? place = some .directory)
    (hfollow : tree.follow place names = .ok target) :
    tree.item? target = some .directory ∨
      ∃ parent name, target = parent ++ [name] ∧ tree.item? parent = some .directory := by
  induction names generalizing place with
  | nil =>
      cases hfollow
      exact Or.inl hplace
  | cons name rest ih =>
      obtain ⟨next, hstep, hrest⟩ := follow_cons_eq_ok_iff.mp hfollow
      obtain ⟨-, ⟨-, rfl⟩ | ⟨-, -, rfl⟩⟩ := step_eq_ok_iff.mp hstep
      · refine ih ?_ hrest
        induction place using List.reverseRecOn with
        | nil => exact hplace
        | append_singleton front last _ =>
            rw [List.dropLast_concat]
            exact h _ _ _ hplace
      · cases rest with
        | nil =>
            cases hrest
            exact Or.inr ⟨place, name, rfl, hplace⟩
        | cons next others =>
            obtain ⟨_, hnext, -⟩ := follow_cons_eq_ok_iff.mp hrest
            exact ih (step_eq_ok_iff.mp hnext).1 hrest

/-- What is put directly below a directory, where no directory lies, has no loose end. -/
theorem IsRooted.put (h : tree.IsRooted) (item : FileItem) {parent : Place} {name : String}
    (hparent : tree.item? parent = some .directory)
    (hitem : tree.item? (parent ++ [name]) ≠ some .directory) :
    (tree.put (parent ++ [name]) item).IsRooted := by
  have hput := item?_put tree (ne_nil_of_not_directory hitem)
  intro place other found hfound
  rw [hput] at hfound ⊢
  have hdirectory : tree.item? place = some .directory := by
    split at hfound
    · rename_i hsame
      rwa [← (List.append_inj' hsame rfl).1]
    · exact h _ _ _ hfound
  rw [if_neg]
  · exact hdirectory
  · rintro rfl
    exact hitem hdirectory

theorem IsRooted.put_of_follow (h : tree.IsRooted) (item : FileItem)
    (hplace : tree.item? place = some .directory)
    (hfollow : tree.follow place names = .ok target)
    (hitem : tree.item? target ≠ some .directory) : (tree.put target item).IsRooted := by
  rcases h.parent_of_follow hplace hfollow with hdirectory | ⟨parent, name, rfl, hparent⟩
  · exact absurd hdirectory hitem
  · exact h.put item hparent hitem

theorem KeepsDirectories.locate_eq (h : KeepsDirectories before after)
    (hlocate : before.locate path = .ok place) : after.locate path = .ok place := by
  rw [FileTree.locate_eq] at hlocate ⊢
  split at hlocate
  · cases hlocate
  · rw [if_neg ‹_›, h.base_eq]
    exact h.follow_eq hlocate

/-- A path starts from a directory. -/
def StartsIn (tree : FileTree) (path : Path) : Prop :=
  tree.item? (tree.base path) = some .directory

theorem KeepsDirectories.startsIn (h : KeepsDirectories before after)
    (hpath : before.StartsIn path) : after.StartsIn path := by
  unfold StartsIn
  rw [h.base_eq]
  exact h.item _ hpath

theorem isRooted_ensureDirectory (h : tree.IsRooted) (hpath : tree.StartsIn path) :
    (tree.ensureDirectory path).2.IsRooted := by
  unfold ensureDirectory
  split
  · rename_i made hmade
    obtain ⟨place, hfollow, hnone, rfl⟩ := exists_of_makeDirectory hmade
    exact h.put_of_follow .directory hpath hfollow (by simp [hnone])
  all_goals exact h

theorem isRooted_makeDirectories (h : tree.IsRooted) (hpath : tree.StartsIn path) :
    (tree.makeDirectories path).2.IsRooted := by
  have hboth : (tree.makeDirectories path).2.IsRooted ∧
      (tree.makeDirectories path).2.StartsIn path := by
    refine makeDirectories_induction (motive := fun tree => tree.IsRooted ∧ tree.StartsIn path)
      ?_ ⟨h, hpath⟩
    rintro names middle ⟨hmiddle, hstart⟩
    have hkeeps := (onlyAddsDirectories_ensureDirectory middle
      { path with parts := names }).keepsDirectories
    exact ⟨isRooted_ensureDirectory hmiddle hstart, hkeeps.startsIn hstart⟩
  exact hboth.1

theorem startsIn_child (h : tree.StartsIn directory) (text : String) :
    tree.StartsIn (directory.child text) := by
  unfold StartsIn Path.child Path.join
  cases hstart : (Path.ofText text).start with
  | here => exact h
  | root =>
      dsimp only
      rw [base, hstart]
      rfl
  | doubleRoot =>
      dsimp only
      rw [base, hstart]
      rfl

theorem isRooted_write {content : FileContent} (h : before.IsRooted) (hpath : before.StartsIn path)
    (hwrite : before.write path content = .ok after) : after.IsRooted := by
  obtain ⟨place, hlocate, rfl, hitem⟩ := item?_of_write hwrite
  exact h.put_of_follow (.file content) hpath (follow_of_locate hlocate) hitem

/-- A file that is put somewhere after directories have been made leaves no loose end and takes
no directory away. -/
theorem isRooted_makeDirectories_write {content : FileContent} (h : before.IsRooted)
    (hdirectory : before.StartsIn directory) (hpath : before.StartsIn path)
    (hwrite : (before.makeDirectories directory).2.write path content = .ok after) :
    after.IsRooted ∧ KeepsDirectories before after := by
  have hmade := (onlyAddsDirectories_makeDirectories before directory).keepsDirectories
  obtain ⟨place, -, hput, hitem⟩ := item?_of_write hwrite
  have hwritten := keepsDirectories_put (.file content) hitem
  rw [← hput] at hwritten
  refine ⟨isRooted_write (isRooted_makeDirectories h hdirectory) (hmade.startsIn hpath) hwrite,
    hwritten.here.trans hmade.here, ?_⟩
  exact fun place hplace => hwritten.item place (hmade.item place hplace)

end FileTree

/-! ## Names of stylesheets -/

/-- The last piece of a text takes what stands behind without a separator. -/
theorem Text.splitAt_append {sep : Char} {behind : List Char} (h : sep ∉ behind) (s : List Char) :
    ∃ front last, splitAt sep (s ++ behind) = front ++ [last ++ behind] := by
  induction s with
  | nil => exact ⟨[], [], splitAt_of_not_mem h⟩
  | cons c rest ih =>
      obtain ⟨front, last, hsplit⟩ := ih
      rw [List.cons_append, splitAt, hsplit]
      by_cases hc : c = sep
      · exact ⟨[] :: front, last, by rw [if_pos hc, List.cons_append]⟩
      · rw [if_neg hc]
        cases front with
        | nil => exact ⟨[], c :: last, rfl⟩
        | cons piece pieces => exact ⟨(c :: piece) :: pieces, last, rfl⟩

/-- The name of a stylesheet is not that of a token file. -/
theorem isTokenFileName_append_css (front : List Char) :
    isTokenFileName (String.ofList (front ++ ".css".toList)) = false := by
  rw [Bool.eq_false_iff]
  intro h
  rw [isTokenFileName, List.isSuffixOf_iff_suffix, String.toList_ofList] at h
  have hshort : ".css".toList <:+ (tokenFileName "").toList :=
    List.suffix_of_suffix_length_le (List.suffix_append _ _) h (by decide)
  revert hshort
  decide

/-- A place of a token file. -/
def IsTokenPlace (place : Place) : Prop :=
  ∃ directory name, place = directory ++ [name] ∧ isTokenFileName name = true

theorem suffix_ofList_append (front ending : List Char) :
    ending <:+ (String.ofList (front ++ ending)).toList := by
  rw [String.toList_ofList]
  exact List.suffix_append _ _

/-- The last name of the path of a stylesheet is that of a stylesheet. -/
theorem exists_parts_stylesheetPath (directory : Path) (name : String) :
    ∃ front last, (stylesheetPath directory name).parts =
      front ++ [String.ofList (last ++ ".css".toList)] := by
  have hslash : '/' ∉ ".css".toList := by decide
  obtain ⟨front, last, hsplit⟩ := Text.splitAt_append hslash name.toList
  have hstep : Path.isStep (String.ofList (last ++ ".css".toList)) = true :=
    isStep_of_suffix (suffix_ofList_append last ".css".toList) (by decide)
  have hparts : (Path.ofText (name ++ ".css")).parts =
      (front.map String.ofList).filter Path.isStep ++ [String.ofList (last ++ ".css".toList)] := by
    change (Text.splitText '/' (name ++ ".css")).filter Path.isStep = _
    rw [Text.splitText, String.toList_append, hsplit, List.map_append, List.map_singleton,
      List.filter_append, List.filter_cons_of_pos hstep, List.filter_nil]
  unfold stylesheetPath Path.child Path.join
  split
  · exact ⟨directory.parts ++ (front.map String.ofList).filter Path.isStep, last, by
      rw [hparts, List.append_assoc]⟩
  · exact ⟨_, last, hparts⟩

/-- A stylesheet does not lie at the place of a token file. -/
theorem FileTree.not_isTokenPlace_of_locate {tree : FileTree} {directory : Path} {name : String}
    {place : Place} (h : tree.locate (stylesheetPath directory name) = .ok place) :
    ¬ IsTokenPlace place := by
  rintro ⟨folder, file, rfl, hfile⟩
  obtain ⟨front, last, hparts⟩ := exists_parts_stylesheetPath directory name
  have hfollow := follow_of_locate h
  have hcss := isTokenFileName_append_css last
  rw [hparts, follow_append] at hfollow
  cases hfront : tree.follow (tree.base (stylesheetPath directory name)) front with
  | error fault =>
      rw [hfront] at hfollow
      cases hfollow
  | ok parent =>
      rw [hfront] at hfollow
      obtain ⟨next, hstep, hnil⟩ := follow_cons_eq_ok_iff.mp hfollow
      cases hnil
      obtain ⟨-, ⟨hup, -⟩ | ⟨-, -, hplace⟩⟩ := step_eq_ok_iff.mp hstep
      · exact ne_of_suffix_of_length (suffix_ofList_append last ".css".toList) (by decide) hup
      · rw [List.singleton_inj.mp (List.append_inj' hplace rfl).2, hcss] at hfile
        cases hfile

/-! ## Copies of the built-in store -/

namespace FileTree

variable {before after files : FileTree} {directory : Path} {place : Place}

/-- A first part of a path leads to a directory, and from there the path goes down. -/
def IsWithinReach (tree : FileTree) (directory : Path) : Prop :=
  ∃ front tail place, directory.parts = front ++ tail ∧
    tree.LeadsTo { directory with parts := front } place ∧ IsDownward tail

theorem CanHold.isWithinReach (h : files.CanHold directory) : files.IsWithinReach directory := by
  obtain ⟨front, tail, hparts, hfront, hdown⟩ := h
  obtain ⟨place, hplace⟩ := leadsTo_of_isDirectory hfront
  exact ⟨front, tail, place, hparts, hplace, hdown⟩

theorem KeepsDirectories.isWithinReach (h : KeepsDirectories before after)
    (hreach : before.IsWithinReach directory) : after.IsWithinReach directory := by
  obtain ⟨front, tail, place, hparts, hfront, hdown⟩ := hreach
  exact ⟨front, tail, place, hparts, h.leadsTo hfront, hdown⟩

theorem LeadsTo.startsIn (h : files.LeadsTo directory place) : files.StartsIn directory := by
  obtain ⟨hfollow, hitem⟩ := h
  unfold StartsIn
  cases hparts : directory.parts with
  | nil =>
      rw [hparts] at hfollow
      cases hfollow
      exact hitem
  | cons name rest =>
      rw [hparts] at hfollow
      obtain ⟨next, hstep, -⟩ := follow_cons_eq_ok_iff.mp hfollow
      exact (step_eq_ok_iff.mp hstep).1

theorem IsWithinReach.startsIn (h : files.IsWithinReach directory) : files.StartsIn directory := by
  obtain ⟨front, tail, place, -, hfront, -⟩ := h
  exact hfront.startsIn

/-- Nothing lies at the place of a file that can be written behind a directory and of which the
system said that it is not there. -/
theorem item?_eq_none_of_holds {file : String} (hplace : before.LeadsTo directory place)
    (hfile : file ≠ "..") (hfree : before.holds (directory.entry file) = .ok false)
    {content : FileContent} (hwrite : before.write (directory.entry file) content = .ok after) :
    before.item? (place ++ [file]) = none := by
  obtain ⟨target, hlocate, -, -⟩ := item?_of_write hwrite
  have htarget := locate_entry hplace hfile
  rw [hlocate] at htarget
  split at htarget
  · cases htarget
  · cases htarget
    cases hitem : before.item? (place ++ [file]) with
    | none => rfl
    | some item =>
        have hfind := find_eq_ok_iff.mpr ⟨hlocate, hitem⟩
        rw [holds, unnamable?_of_write hwrite, hfind] at hfree
        cases hfree

/-- The built-in store is the token file of its name. -/
structure HoldsCopy (files : FileTree) (directory : Path) (place : Place) : Prop where
  leadsTo : ∃ folder, files.LeadsTo directory folder ∧
    place = folder ++ [tokenFileName defaultStoreName]
  item : files.item? place = some (.file (.document Builtin.store.toDatum))

theorem tokenPath_default (directory : Path) :
    tokenPath directory defaultStoreName = directory.entry (tokenFileName defaultStoreName) :=
  child_tokenFileName (by decide) directory

/-- Where directories are made, a vacant place is where the path leads then. -/
theorem IsVacantBehind.eq_of_leadsTo {front tail : List String} {folder : Place}
    (h : before.IsVacantBehind directory front tail place) (hkeeps : KeepsDirectories before after)
    (hafter : after.LeadsTo directory folder) : folder = place ++ tail := by
  have hfront := hkeeps.leadsTo h.leadsTo
  have hfollow := hafter.1
  rw [h.parts] at hfollow
  have htail : after.follow place tail = .ok folder := (follow_behind hfront).symm.trans hfollow
  exact eq_append_of_follow (fun name hname => (h.downward name hname).1) htail

/-- What lay where the copy is put was nothing, and it is put where its name leads. -/
theorem item?_of_copy (h : before.IsRooted) (hreach : before.IsWithinReach directory)
    (hfree : before.holds (tokenPath directory defaultStoreName) = .ok false)
    (hmade : (before.makeDirectories directory).1 = .ok ())
    (hwrite : (before.makeDirectories directory).2.write (tokenPath directory defaultStoreName)
      (.document (Yaml.reread Builtin.store.toDatum)) = .ok after) :
    ∃ place, before.item? place = none ∧ after.HoldsCopy directory place ∧
      ∀ other, place ≠ other →
        after.item? other = (before.makeDirectories directory).2.item? other := by
  have hfile := tokenFileName_ne_up defaultStoreName
  obtain ⟨folder, hfolder⟩ := leadsTo_of_makeDirectories hmade
  rw [tokenPath_default] at hfree hwrite
  rw [Yaml.reread_builtin] at hwrite
  have hafter := item?_of_write_entry hfolder hfile hwrite
  refine ⟨folder ++ [tokenFileName defaultStoreName], ?_, ⟨⟨folder, ?_, rfl⟩, ?_⟩, ?_⟩
  · obtain ⟨front, tail, place, hparts, hfront, hdown⟩ := hreach
    rcases h.leadsTo_or_isVacant hparts hfront hdown with ⟨there, hthere⟩ | hvacant
    · -- Nothing is made where the directory is there.
      have hsame := makeDirectories_of_leadsTo hthere
      rw [hsame] at hfolder hwrite
      exact item?_eq_none_of_holds hfolder hfile hfree hwrite
    · obtain ⟨front, tail, place, hvacant⟩ := hvacant
      have hkeeps := (onlyAddsDirectories_makeDirectories before directory).keepsDirectories
      rw [hvacant.eq_of_leadsTo hkeeps hfolder, List.append_assoc]
      exact hvacant.item _
  · exact leadsTo_of_write hfolder hwrite
  · rw [hafter, if_pos rfl]
  · intro other hother
    rw [hafter, if_neg hother]

end FileTree

namespace Session

variable {directory : Path} {session : Session} {time : Moment} {call : ToolCall}
  {calls : List (Moment × ToolCall)} {place : Place}

/-! ## What a call keeps -/

/-- The folder of the stores can be made, the output starts where it does, and nothing in the tree
has a loose end. -/
structure IsReady (directory : Path) (session : Session) : Prop where
  rooted : session.files.IsRooted
  project : session.catalog.project = some directory
  reach : session.files.IsWithinReach directory
  output : session.files.StartsIn session.output

theorem isReady_start {root : Path} {files : FileTree} (hfiles : files.IsRooted)
    (htokens : files.CanHold (root.child "tokens")) :
    (start root files).IsReady (root.child "tokens") where
  rooted := hfiles
  project := rfl
  reach := htokens.isWithinReach
  output := htokens.isWithinReach.startsIn

/-- The tree of an effect has no loose end either, and its directories are kept. -/
theorem isRooted_of_effect (h : session.IsReady directory)
    {reply : Except ToolError ToolReply} {after : FileTree}
    (heffect : Effect session time call reply after) :
    after.IsRooted ∧ FileTree.KeepsDirectories session.files after := by
  have hmade (path : Path) := FileTree.onlyAddsDirectories_makeDirectories session.files path
  have hproject {other : Path} (hother : session.catalog.project = some other) :
      other = directory := Option.some.inj (hother.symm.trans h.project)
  have hdirectory := FileTree.isRooted_makeDirectories h.rooted h.reach.startsIn
  have houtput := FileTree.isRooted_makeDirectories h.rooted h.output
  cases heffect with
  | asked => exact ⟨h.rooted, ⟨rfl, fun _ => id⟩⟩
  | copyFailed hother =>
      obtain rfl := hproject hother
      exact ⟨hdirectory, (hmade _).keepsDirectories⟩
  | copied hother _ _ hwrite =>
      obtain rfl := hproject hother
      exact FileTree.isRooted_makeDirectories_write h.rooted h.reach.startsIn
        (FileTree.startsIn_child h.reach.startsIn _) hwrite
  | writeFailed => exact ⟨houtput, (hmade _).keepsDirectories⟩
  | cut _ _ _ _ hwrite =>
      exact FileTree.isRooted_makeDirectories_write h.rooted h.output
        (FileTree.startsIn_child h.output _) hwrite
  | written _ _ _ hwrite =>
      exact FileTree.isRooted_makeDirectories_write h.rooted h.output
        (FileTree.startsIn_child h.output _) hwrite

theorem isReady_serve (h : session.IsReady directory) (time : Moment) (call : ToolCall) :
    (session.serve time call).2.IsReady directory := by
  obtain ⟨hrooted, hkeeps⟩ := isRooted_of_effect h (effect_serve session time call)
  have hfolders := sameFolders_serve session time call
  refine ⟨hrooted, hfolders.project.trans h.project, hkeeps.isWithinReach h.reach, ?_⟩
  rw [hfolders.output]
  exact hkeeps.startsIn h.output

/-- A call leaves what lies at the place of a token file, or puts a directory or the copy of the
built-in store where nothing lay. -/
theorem item?_of_effect (h : session.IsReady directory) (hplace : IsTokenPlace place)
    {reply : Except ToolError ToolReply} {after : FileTree}
    (heffect : Effect session time call reply after) :
    after.item? place = session.files.item? place ∨
      session.files.item? place = none ∧
        (after.item? place = some .directory ∨ after.HoldsCopy directory place) := by
  have hmade (path : Path) :=
    (FileTree.onlyAddsDirectories_makeDirectories session.files path).item place
  have hadded {middle : FileTree} (hmiddle : middle.item? place = session.files.item? place ∨
      session.files.item? place = none ∧ middle.item? place = some .directory)
      (hafter : after.item? place = middle.item? place) :
      after.item? place = session.files.item? place ∨
        session.files.item? place = none ∧
          (after.item? place = some .directory ∨ after.HoldsCopy directory place) := by
    rw [hafter]
    exact hmiddle.imp_right fun hnew => ⟨hnew.1, Or.inl hnew.2⟩
  have hstylesheet {middle : FileTree} {outputName : String} {content : FileContent}
      (hwrite : middle.write (stylesheetPath session.output outputName) content = .ok after) :
      after.item? place = middle.item? place := by
    obtain ⟨target, hlocate, rfl, hitem⟩ := FileTree.item?_of_write hwrite
    rw [FileTree.item?_put middle (FileTree.ne_nil_of_not_directory hitem), if_neg]
    rintro rfl
    exact FileTree.not_isTokenPlace_of_locate hlocate hplace
  cases heffect with
  | asked => exact Or.inl rfl
  | copyFailed => exact hadded (hmade _) rfl
  | copied hother hfree hmadeOk hwrite =>
      obtain rfl := Option.some.inj (hother.symm.trans h.project)
      obtain ⟨target, hnone, hcopy, hothers⟩ :=
        FileTree.item?_of_copy h.rooted h.reach hfree hmadeOk hwrite
      by_cases htarget : target = place
      · subst htarget
        exact Or.inr ⟨hnone, Or.inr hcopy⟩
      · exact hadded (hmade _) (hothers place htarget)
  | writeFailed => exact hadded (hmade _) rfl
  | cut _ _ _ _ hwrite => exact hadded (hmade _) (hstylesheet hwrite)
  | written _ _ _ hwrite => exact hadded (hmade _) (hstylesheet hwrite)

/-- A call keeps what a token file holds. -/
theorem item?_serve_of_file (h : session.IsReady directory) (hplace : IsTokenPlace place)
    {content : FileContent} (hfile : session.files.item? place = some (.file content)) :
    (session.serve time call).2.files.item? place = some (.file content) := by
  rcases item?_of_effect h hplace (effect_serve session time call) with hsame | ⟨hnone, -⟩
  · rw [hsame]
    exact hfile
  · rw [hnone] at hfile
    cases hfile

theorem isTokenPlace_of_holdsCopy {files : FileTree} (h : files.HoldsCopy directory place) :
    IsTokenPlace place := by
  obtain ⟨folder, -, rfl⟩ := h.leadsTo
  exact ⟨folder, _, rfl, by decide⟩

theorem holdsCopy_serve (h : session.IsReady directory)
    (hcopy : session.files.HoldsCopy directory place) :
    (session.serve time call).2.files.HoldsCopy directory place := by
  obtain ⟨-, hkeeps⟩ := isRooted_of_effect h (effect_serve session time call)
  obtain ⟨folder, hfolder, hplace⟩ := hcopy.leadsTo
  exact ⟨⟨folder, hkeeps.leadsTo hfolder, hplace⟩,
    item?_serve_of_file h (isTokenPlace_of_holdsCopy hcopy) hcopy.item⟩

/-! ## Copies that are made -/

/-- A reply tells of a copy. -/
def isCopied : Except ToolError ToolReply → Bool
  | .ok (.copied _) => true
  | _ => false

theorem eq_of_holdsCopy {files : FileTree} {other : Place} (h : files.HoldsCopy directory place)
    (hother : files.HoldsCopy directory other) : place = other := by
  obtain ⟨folder, hfolder, rfl⟩ := h.leadsTo
  obtain ⟨next, hnext, rfl⟩ := hother.leadsTo
  rw [Except.ok.inj (hfolder.1.symm.trans hnext.1)]

/-- A copy that is told of is there, and it was not there before. -/
theorem exists_of_isCopied (h : session.IsReady directory)
    (hcopied : isCopied (session.serve time call).1 = true) :
    ∃ place, session.files.item? place = none ∧
      (session.serve time call).2.files.HoldsCopy directory place := by
  have heffect := effect_serve session time call
  generalize (session.serve time call).1 = reply at heffect hcopied
  generalize (session.serve time call).2.files = after at heffect ⊢
  cases heffect with
  | asked hasked =>
      unfold isCopied at hcopied
      split at hcopied
      · exact absurd trivial (hasked _ rfl)
      · cases hcopied
  | copied hother hfree hmade hwrite =>
      obtain rfl := Option.some.inj (hother.symm.trans h.project)
      obtain ⟨place, hnone, hcopy, -⟩ :=
        FileTree.item?_of_copy h.rooted h.reach hfree hmade hwrite
      exact ⟨place, hnone, hcopy⟩
  | _ => cases hcopied

/-- What is there is not copied again. -/
theorem isCopied_serve_of_holdsCopy (h : session.IsReady directory)
    (hcopy : session.files.HoldsCopy directory place) :
    isCopied (session.serve time call).1 = false := by
  rw [Bool.eq_false_iff]
  intro hcopied
  obtain ⟨other, hnone, hother⟩ := exists_of_isCopied h hcopied
  rw [← eq_of_holdsCopy (holdsCopy_serve h hcopy) hother, hcopy.item] at hnone
  cases hnone

theorem countP_isCopied_of_holdsCopy (h : session.IsReady directory)
    (hcopy : session.files.HoldsCopy directory place) (calls : List (Moment × ToolCall)) :
    (run calls session).1.countP isCopied = 0 := by
  induction calls generalizing session with
  | nil => rfl
  | cons first rest ih =>
      obtain ⟨time, call⟩ := first
      have hfirst : isCopied (session.serve time call).1 = false :=
        isCopied_serve_of_holdsCopy h hcopy
      rw [run_cons, List.countP_cons_of_neg (by rw [hfirst]; exact Bool.false_ne_true)]
      exact ih (isReady_serve h time call) (holdsCopy_serve h hcopy)

/-- A run copies the built-in store once at most. -/
theorem countP_isCopied_le_one (h : session.IsReady directory)
    (calls : List (Moment × ToolCall)) : (run calls session).1.countP isCopied ≤ 1 := by
  induction calls generalizing session with
  | nil => exact Nat.zero_le 1
  | cons first rest ih =>
      obtain ⟨time, call⟩ := first
      have hnext := isReady_serve h time call
      rw [run_cons]
      cases hfirst : isCopied (session.serve time call).1 with
      | true =>
          obtain ⟨place, -, hcopy⟩ := exists_of_isCopied h hfirst
          have hnone := countP_isCopied_of_holdsCopy hnext hcopy rest
          rw [List.countP_cons_of_pos hfirst]
          exact Nat.succ_le_succ (Nat.le_of_eq hnone)
      | false =>
          rw [List.countP_cons_of_neg (by rw [hfirst]; exact Bool.false_ne_true)]
          exact ih hnext

/-! ## Token files over a run -/

/-- A run keeps what a token file holds. -/
theorem item?_run_of_file (h : session.IsReady directory) (hplace : IsTokenPlace place)
    {content : FileContent} (hfile : session.files.item? place = some (.file content))
    (calls : List (Moment × ToolCall)) :
    (run calls session).2.files.item? place = some (.file content) := by
  have hboth := run_induction calls
    (motive := fun middle => middle.IsReady directory ∧
      middle.files.item? place = some (.file content))
    (fun middle time call _ h => ⟨isReady_serve h.1 time call,
      item?_serve_of_file h.1 hplace h.2⟩) ⟨h, hfile⟩
  exact hboth.2

/-- A token file that is there after a run was there before it, or it is the copy. -/
theorem item?_or_holdsCopy_of_run (h : session.IsReady directory)
    (calls : List (Moment × ToolCall)) (hplace : IsTokenPlace place) {content : FileContent}
    (hfile : (run calls session).2.files.item? place = some (.file content)) :
    session.files.item? place = some (.file content) ∨
      (run calls session).2.files.HoldsCopy directory place := by
  have hboth := run_induction calls
    (motive := fun middle => middle.IsReady directory ∧
      (middle.files.item? place = some (.file content) →
        session.files.item? place = some (.file content) ∨
          middle.files.HoldsCopy directory place)) ?_ ⟨h, Or.inl⟩
  · exact hboth.2 hfile
  · rintro middle time call - ⟨hmiddle, hmade⟩
    refine ⟨isReady_serve hmiddle time call, ?_⟩
    intro hafter
    rcases item?_of_effect hmiddle hplace (effect_serve middle time call) with
      hsame | ⟨-, hdirectory | hcopy⟩
    · rw [hsame] at hafter
      exact (hmade hafter).imp_right (holdsCopy_serve hmiddle)
    · rw [hdirectory] at hafter
      cases hafter
    · exact Or.inr hcopy

/-! ## Calls that fail -/

/-- The stylesheet of a call has lone surrogates. Its file is empty after the call, and nothing
else changes but that directories appear. -/
structure IsCutOff (session : Session) (time : Moment) (storeName : String)
    (brandName : Option String) (outputName : String) (run : Text.SurrogateRun) : Prop where
  css : ∃ source css, (session.source storeName brandName).1 = .ok source ∧
    source.generate time = .ok css ∧ loneSurrogates? css = some run
  file : ∃ place, ¬ IsTokenPlace place ∧
    (session.serve time (.writeStylesheet storeName brandName outputName)).2.files.find
      (stylesheetPath session.output outputName) = .ok (place, .file (.text "")) ∧
    ∀ other, place ≠ other →
      let after := (session.serve time (.writeStylesheet storeName brandName outputName)).2.files
      after.item? other = session.files.item? other ∨
        session.files.item? other = none ∧ after.item? other = some .directory

/-- A call that fails only adds directories, or cuts a stylesheet off. -/
theorem onlyAddsDirectories_of_error {error : ToolError}
    (h : (session.serve time call).1 = .error error) :
    session.files.OnlyAddsDirectories (session.serve time call).2.files ∨
      ∃ storeName brandName outputName run,
        call = .writeStylesheet storeName brandName outputName ∧
          error = .file (.surrogates run) ∧
          session.IsCutOff time storeName brandName outputName run := by
  have heffect := effect_serve session time call
  generalize hafter : (session.serve time call).2.files = after at heffect ⊢
  rw [h] at heffect
  have hmade := FileTree.onlyAddsDirectories_makeDirectories session.files
  cases heffect with
  | asked => exact Or.inl (FileTree.OnlyAddsDirectories.refl _)
  | copyFailed => exact Or.inl (hmade _)
  | writeFailed => exact Or.inl (hmade _)
  | @cut storeName brandName outputName source css run _ hsource hcss hrun hmadeOk hwrite =>
      refine Or.inr ⟨storeName, brandName, outputName, run, rfl, rfl,
        ⟨source, css, hsource, hcss, hrun⟩, ?_⟩
      obtain ⟨place, hlocate, rfl, hitem⟩ := FileTree.item?_of_write hwrite
      have hput := FileTree.item?_put (session.files.makeDirectories session.output).2
        (FileTree.ne_nil_of_not_directory hitem)
      refine ⟨place, FileTree.not_isTokenPlace_of_locate hlocate, ?_, ?_⟩
      · rw [hafter]
        refine FileTree.find_eq_ok_iff.mpr ⟨?_, by rw [hput, if_pos rfl]⟩
        exact (FileTree.keepsDirectories_put _ hitem).locate_eq hlocate
      · intro other hother
        dsimp only
        rw [hafter, hput, if_neg hother]
        exact (hmade session.output).item other

/-! ## Runs -/

/-- At every point of a run of calls, a call that fails changes no file, unless it cuts a
stylesheet off that has lone surrogates; a call that asks for something changes nothing. A token
file that is there keeps what it holds for the rest of the run, and it was there at the start or
is the copy of the built-in store under its name, which a run makes once at most. -/
theorem tokenFiles_kept (root : Path) (files : FileTree) (hfiles : files.IsRooted)
    (htokens : files.CanHold (root.child "tokens")) (calls : List (Moment × ToolCall)) :
    let session := (run calls (start root files)).2
    (∀ time call error, (session.serve time call).1 = .error error →
      session.files.OnlyAddsDirectories (session.serve time call).2.files ∨
        ∃ storeName brandName outputName run,
          call = .writeStylesheet storeName brandName outputName ∧
            error = .file (.surrogates run) ∧
            session.IsCutOff time storeName brandName outputName run) ∧
    (∀ time call, call.IsAsking → (session.serve time call).2.files = session.files) ∧
    (∀ place content, IsTokenPlace place → session.files.item? place = some (.file content) →
      (∀ more, (run more session).2.files.item? place = some (.file content)) ∧
        (files.item? place = some (.file content) ∨
          session.files.HoldsCopy (root.child "tokens") place)) ∧
    (run calls (start root files)).1.countP isCopied ≤ 1 := by
  intro session
  have hstart := isReady_start hfiles htokens
  have hready : session.IsReady (root.child "tokens") :=
    run_induction calls (fun middle time call _ h => isReady_serve h time call) hstart
  refine ⟨fun time call error => onlyAddsDirectories_of_error,
    fun time call => files_serve_of_isAsking, ?_, countP_isCopied_le_one hstart calls⟩
  intro place content hplace hfile
  constructor
  · intro more
    exact item?_run_of_file hready hplace hfile more
  · exact item?_or_holdsCopy_of_run hstart calls hplace hfile

end Session

/-! ## A stylesheet that is cut off -/

namespace Sample

/-- A text with one half of a surrogate pair. -/
def halfText : String := String.singleton (Text.surrogateChar 0xd800)

/-- A project with a store that no stylesheet can be written from. -/
def halfFiles : FileTree where
  items := [(["work"], .directory), (["work", "tokens"], .directory),
    (["work", "tokens", "odd.yaml"],
      .file (.document (.map [(.text "spacing", .map [(.text "1", .text halfText)])])))]
  here := ["work"]

/-- The working directory. -/
def herePath : Path := ⟨.here, []⟩

/-- The time of all calls. -/
def callTime : Moment := { date := ⟨2024, 5, 17⟩, hour := 12, offset := some 0 }

/-- The built-in store is copied twice. -/
def copyCalls : List (Moment × ToolCall) :=
  [(callTime, .copyStore "mond"), (callTime, .copyStore "mond")]

/-- The session after the copies. -/
def halfSession : Session := (Session.run copyCalls (.start herePath halfFiles)).2

/-- Where the copy is. -/
def copyPlace : Place := ["work", "tokens", "mond.yaml"]

/-- Where the stylesheet is to be. -/
def cutPlace : Place := ["work", "dist", "theme.css"]

/-- The half that keeps the stylesheet from being written. -/
def halfRun : Text.SurrogateRun := ⟨0xd800, 262, 1⟩

theorem halfFiles_isRooted : halfFiles.IsRooted := by
  apply FileTree.isRooted_of_items
  simp only [halfFiles, List.forall_mem_cons, List.not_mem_nil, false_implies, implies_true,
    and_true]
  exact ⟨rfl, rfl, rfl⟩

theorem halfFiles_canHold : halfFiles.CanHold (herePath.child "tokens") :=
  ⟨[], ["tokens"], by decide +kernel, by decide +kernel, by decide +kernel⟩

/-- The call fails, and there is a file where the stylesheet was to be. -/
theorem serve_halfSession :
    (halfSession.serve callTime (.writeStylesheet "odd" none "theme")).1 =
        .error (.file (.surrogates halfRun)) ∧
      ((halfSession.serve callTime (.writeStylesheet "odd" none "theme")).2.files.item?
        cutPlace).any (fun item => item matches .file _) = true := by
  decide +kernel

end Sample

namespace Session

/-- The built-in store is copied once and kept, and so is the store of the project. The call that
fails has left a file, so it has cut the stylesheet off. -/
theorem tokenFiles_kept_half :
    Sample.halfFiles.IsRooted ∧ Sample.halfFiles.CanHold (Sample.herePath.child "tokens") ∧
      (run Sample.copyCalls (start Sample.herePath Sample.halfFiles)).1 =
        [.ok (.copied (Sample.notePath.entry "mond.yaml")),
          .error (.save (.alreadyThere "mond"))] ∧
      Sample.halfSession.files.HoldsCopy (Sample.herePath.child "tokens") Sample.copyPlace ∧
      (∀ more, (run more Sample.halfSession).2.files.item? Sample.copyPlace =
        some (.file (.document Builtin.store.toDatum))) ∧
      (Sample.halfSession.serve Sample.callTime (.writeStylesheet "odd" none "theme")).1 =
        .error (.file (.surrogates Sample.halfRun)) ∧
      ¬ Sample.halfSession.files.OnlyAddsDirectories
        (Sample.halfSession.serve Sample.callTime (.writeStylesheet "odd" none "theme")).2.files ∧
      Sample.halfSession.IsCutOff Sample.callTime "odd" none "theme" Sample.halfRun := by
  obtain ⟨hfails, -, hkept, -⟩ := tokenFiles_kept Sample.herePath Sample.halfFiles
    Sample.halfFiles_isRooted Sample.halfFiles_canHold Sample.copyCalls
  have hsession : (run Sample.copyCalls (start Sample.herePath Sample.halfFiles)).2 =
      Sample.halfSession := rfl
  rw [hsession] at hfails hkept
  have hcopy : Sample.halfSession.files.item? Sample.copyPlace =
      some (.file (.document Builtin.store.toDatum)) := by
    rw [← Yaml.reread_builtin]
    rfl
  have hplace : IsTokenPlace Sample.copyPlace := ⟨["work", "tokens"], "mond.yaml", rfl, by decide⟩
  obtain ⟨hmore, hstart⟩ := hkept _ _ hplace hcopy
  have hnew : Sample.halfFiles.item? Sample.copyPlace = none := rfl
  have hheld := hstart.resolve_left (by rw [hnew]; exact nofun)
  obtain ⟨hreply, hfile⟩ := Sample.serve_halfSession
  have hadds : ¬ Sample.halfSession.files.OnlyAddsDirectories
      (Sample.halfSession.serve Sample.callTime (.writeStylesheet "odd" none "theme")).2.files := by
    intro hadds
    have hbefore : Sample.halfSession.files.item? Sample.cutPlace = none := rfl
    rcases hadds.item Sample.cutPlace with hsame | ⟨-, hdirectory⟩
    · rw [hsame, hbefore] at hfile
      cases hfile
    · rw [hdirectory] at hfile
      cases hfile
  refine ⟨Sample.halfFiles_isRooted, Sample.halfFiles_canHold, by decide +kernel, hheld, hmore,
    hreply, hadds, ?_⟩
  obtain ⟨storeName, brandName, outputName, run, hcall, herror, hcut⟩ :=
    (hfails _ _ _ hreply).resolve_left hadds
  cases hcall
  cases herror
  exact hcut

end Session

end DesignTokens
