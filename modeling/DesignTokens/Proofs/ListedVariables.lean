import DesignTokens.Command.Running
import DesignTokens.Proofs.KebabNames
import DesignTokens.Proofs.TotalGeneration
import DesignTokens.Tools.Session
import Mathlib.Algebra.Order.BigOperators.Group.List
import Mathlib.Algebra.Order.Ring.Nat

/-!
# Variables in listings

A listing shows the dotted text of a token with a custom property that is named after the
pieces of this text. The tool drops the empty pieces, the command keeps them, and the build
names the property after the segments of the path. The number of hyphens tells the three names
apart: they are the same exactly when no segment is empty or has a dot at an end or next to a
separator.
-/

namespace DesignTokens

open Text

/-! ## Hyphens of a name -/

/-- Parts that are joined by hyphens have the hyphens of the parts and those between them. -/
theorem count_intercalate_hyphen {α : Type} {part : α → String} {xs : List α} (h : xs ≠ []) :
    ("-".intercalate (xs.map part)).toList.count '-' + 1 =
      (xs.map fun x => (part x).toList.count '-' + 1).sum := by
  induction xs with
  | nil => exact absurd rfl h
  | cons x rest ih =>
      cases rest with
      | nil => simp
      | cons y others =>
          have hrest := ih (List.cons_ne_nil y others)
          have hhyphen : "-".toList.count '-' = 1 := by decide
          simp only [List.map_cons, List.sum_cons] at hrest ⊢
          rw [String.intercalate_cons_cons, String.toList_append, String.toList_append,
            List.count_append, List.count_append, hhyphen]
          omega

/-- Rows of parts are joined like the rows that are joined first. -/
theorem intercalate_flatMap {α : Type} (separator : String) {row : α → List String}
    (hrow : ∀ x, row x ≠ []) (xs : List α) :
    separator.intercalate (xs.flatMap row) =
      separator.intercalate (xs.map fun x => separator.intercalate (row x)) := by
  induction xs with
  | nil => rfl
  | cons x rest ih =>
      cases rest with
      | nil => simp
      | cons y others =>
          have hbehind : (y :: others).flatMap row ≠ [] := by
            rw [List.flatMap_cons]
            exact List.append_ne_nil_of_left_ne_nil (hrow y) _
          rw [List.flatMap_cons, String.intercalate_append_of_ne_nil (hrow x) hbehind, ih,
            List.map_cons (a := x), List.map_cons, String.intercalate_cons_cons]

theorem splitText_ne_nil (sep : Char) (s : String) : splitText sep s ≠ [] :=
  mt List.map_eq_nil_iff.mp (splitAt_ne_nil sep s.toList)

/-- The pieces of the segments of a path give the name of the segments, each cut by itself. -/
theorem variableName_flatMap_splitText (path : List String) :
    variableName (path.flatMap (splitText '.')) =
      variablePrefix ++ "-".intercalate (path.map kebabOfPieces) := by
  have hrow : ∀ segment, (splitText '.' segment).map toKebab ≠ [] := by
    intro segment
    exact mt List.map_eq_nil_iff.mp (splitText_ne_nil '.' segment)
  rw [variableName, List.map_flatMap, intercalate_flatMap "-" hrow]
  rfl

/-- A path is named like the pieces of its segments exactly when all dots within the segments
stand alone. -/
theorem variableName_flatMap_splitText_eq_iff {path : List String} :
    variableName (path.flatMap (splitText '.')) = variableName path ↔
      ∀ segment ∈ path, HasLoneDots segment.toList := by
  rw [variableName_flatMap_splitText]
  constructor
  · intro h segment hsegment
    by_contra hdots
    have hne : path ≠ [] := List.ne_nil_of_mem hsegment
    -- Where the dots do not stand alone a hyphen is missing, and nowhere there is one too many.
    have hle : ∀ segment ∈ path,
        (toKebab segment).toList.count '-' + 1 ≤ (kebabOfPieces segment).toList.count '-' + 1 := by
      intro other _
      by_cases hother : HasLoneDots other.toList
      · rw [toKebab_eq_kebabOfPieces_iff.mpr hother]
      · exact Nat.succ_le_succ (Nat.le_of_lt (count_toKebab_lt hother))
    have hlt := List.sum_lt_sum _ _ hle
      ⟨segment, hsegment, Nat.succ_lt_succ (count_toKebab_lt hdots)⟩
    rw [← count_intercalate_hyphen hne, ← count_intercalate_hyphen hne] at hlt
    have hsame := congrArg (fun s : String => s.toList.count '-') h
    simp only [variableName, String.toList_append, List.count_append] at hsame
    omega
  · intro h
    rw [variableName, List.map_congr_left fun segment hsegment =>
      toKebab_eq_kebabOfPieces_iff.mpr (h segment hsegment)]

/-! ## Empty pieces -/

/-- A text whose only piece is empty is empty. -/
theorem eq_empty_of_splitText {sep : Char} {s : String} (h : splitText sep s = [""]) : s = "" := by
  obtain ⟨piece, hsplit, hpiece⟩ := List.map_eq_singleton_iff.mp h
  have hjoin := joinWith_splitAt sep s.toList
  rw [hsplit, joinWith] at hjoin
  rw [← hpiece, hjoin, String.ofList_toList]

/-- The segments of a path have an empty piece only when the path is one empty segment. -/
theorem eq_of_flatMap_splitText {path : List String} (h : path.flatMap (splitText '.') = [""]) :
    path = [""] := by
  cases path with
  | nil => cases h
  | cons first rest =>
      rw [List.flatMap_cons, List.append_eq_singleton_iff] at h
      rcases h with ⟨hnone, -⟩ | ⟨hfirst, hrest⟩
      · exact absurd hnone (splitText_ne_nil '.' first)
      · have hnil : rest = [] := by
          rw [List.eq_nil_iff_forall_not_mem]
          intro segment hsegment
          exact splitText_ne_nil '.' segment (List.flatMap_eq_nil_iff.mp hrest segment hsegment)
        rw [hnil, eq_empty_of_splitText hfirst]

/-- Empty pieces count for the hyphens between them only. -/
theorem sum_hyphens_filter (pieces : List String) :
    ((pieces.filter fun piece => piece != "").map fun piece =>
        (toKebab piece).toList.count '-' + 1).sum + pieces.count "" =
      (pieces.map fun piece => (toKebab piece).toList.count '-' + 1).sum := by
  have hempty : (toKebab "").toList.count '-' = 0 := by decide
  induction pieces with
  | nil => rfl
  | cons piece rest ih =>
      by_cases hpiece : piece = ""
      · subst hpiece
        rw [List.filter_cons_of_neg (by decide), List.count_cons_self, List.map_cons,
          List.sum_cons, ← ih, hempty]
        omega
      · rw [List.filter_cons_of_pos (by simpa using hpiece), List.count_cons_of_ne hpiece,
          List.map_cons, List.map_cons, List.sum_cons, List.sum_cons, ← ih]
        omega

/-- Without its empty pieces a text gives the same name exactly when it has none of them, or is
empty itself. -/
theorem variableName_filter_eq_iff {pieces : List String} (hne : pieces ≠ [])
    (hgiven : pieces ≠ [""]) :
    variableName (pieces.filter fun piece => piece != "") = variableName pieces ↔
      "" ∉ pieces := by
  constructor
  · intro h
    have hsame := congrArg (fun s : String => s.toList.count '-') h
    have hfilter := sum_hyphens_filter pieces
    have hall : ("-".intercalate (pieces.map toKebab)).toList.count '-' + 1 = _ :=
      count_intercalate_hyphen hne
    simp only [variableName, String.toList_append, List.count_append] at hsame
    rw [← hall] at hfilter
    rw [← List.count_eq_zero]
    by_cases hkept : (pieces.filter fun piece => piece != "") = []
    · exfalso
      rw [hkept] at hsame hfilter
      have hempty : ∀ piece ∈ pieces, piece = "" := by
        simpa using List.filter_eq_nil_iff.mp hkept
      have hreplicate := List.eq_replicate_of_mem hempty
      have hnone : ("-".intercalate (([] : List String).map toKebab)).toList.count '-' = 0 := by
        decide
      rw [hreplicate, List.count_replicate_self, ← hreplicate, List.map_nil,
        List.sum_nil] at hfilter
      have hlength : pieces.length = 1 := by omega
      rw [hlength] at hreplicate
      exact hgiven hreplicate
    · rw [← count_intercalate_hyphen hkept] at hfilter
      omega
  · intro h
    rw [List.filter_eq_self.mpr]
    intro piece hpiece
    rw [bne_iff_ne]
    rintro rfl
    exact h hpiece

/-! ## Listings -/

namespace TokenStore

variable {store : TokenStore}

/-- A path is listed at and below a dotted path; no path and the empty one list all. -/
def isListed (above : Option String) (path : List String) : Bool :=
  match above with
  | none => true
  | some text => text == "" || liesUnder text (joinDotted path)

/-- The leaves that are listed, in the order of the tree. -/
def leavesUnder (store : TokenStore) (above : Option String) : List (List String × Leaf) :=
  store.leaves.filter fun leaf => isListed above leaf.1

/-- The dotted paths of the leaves that are listed, each with the property that its pieces
name. -/
def variablesBy (store : TokenStore) (cut : String → List String) (above : Option String) :
    List (String × String) :=
  (store.leavesUnder above).map fun leaf =>
    (joinDotted leaf.1, variableName (cut (joinDotted leaf.1)))

/-- The dotted paths of the leaves that are listed, each with the property that its segments
name. -/
def ownVariables (store : TokenStore) (above : Option String) : List (String × String) :=
  (store.leavesUnder above).map fun leaf => (joinDotted leaf.1, variableName leaf.1)

theorem pathsUnder_eq_map (store : TokenStore) (above : Option String) :
    store.pathsUnder above = (store.leavesUnder above).map fun leaf => joinDotted leaf.1 := by
  rw [leavesUnder]
  cases above with
  | none => simp [pathsUnder, semanticPaths, isListed]
  | some text =>
      by_cases htext : text = ""
      · simp [pathsUnder, semanticPaths, isListed, htext]
      · have hgiven : (text == "") = false := beq_false_of_ne htext
        simp [pathsUnder, semanticPaths, isListed, htext, hgiven, List.filter_map,
          Function.comp_def]

theorem mem_leaves_of_mem_leavesUnder {above : Option String} {leaf : List String × Leaf}
    (h : leaf ∈ store.leavesUnder above) : leaf ∈ store.leaves := (List.mem_filter.mp h).1

theorem isVariableName_of_mem_leaves (hstore : store.WellFormed) {leaf : List String × Leaf}
    (h : leaf ∈ store.leaves) : isVariableName (variableName leaf.1) = true := by
  apply hstore.valid (.token leaf.1)
  exact List.mem_append_right _ (List.mem_map.mpr ⟨leaf, h, rfl⟩)

/-- A leaf has a segment, and it does not have an empty one only. -/
theorem ne_nil_of_mem_leaves (hstore : store.WellFormed) {leaf : List String × Leaf}
    (h : leaf ∈ store.leaves) : leaf.1 ≠ [] ∧ leaf.1 ≠ [""] := by
  have hvalid := isVariableName_of_mem_leaves hstore h
  have hrefused : isVariableName (variableName []) = false ∧
      isVariableName (variableName [""]) = false := by
    decide +kernel
  constructor
  · intro hpath
    rw [hpath, hrefused.1] at hvalid
    cases hvalid
  · intro hpath
    rw [hpath, hrefused.2] at hvalid
    cases hvalid

/-- The tool and the command name a property alike exactly when no segment has an empty piece. -/
theorem variablesBy_splitDotted_eq_iff (hstore : store.WellFormed) (above : Option String) :
    store.variablesBy splitDotted above = store.variablesBy (splitText '.') above ↔
      ∀ leaf ∈ store.leavesUnder above, ∀ segment ∈ leaf.1, "" ∉ splitText '.' segment := by
  rw [variablesBy, variablesBy, List.map_inj_left]
  refine forall₂_congr fun leaf hleaf => ?_
  obtain ⟨hne, hgiven⟩ := ne_nil_of_mem_leaves hstore (mem_leaves_of_mem_leavesUnder hleaf)
  have hpieces : leaf.1.flatMap (splitText '.') ≠ [] := by
    rw [← splitText_joinDotted hne]
    exact splitText_ne_nil '.' _
  rw [Prod.mk.injEq, and_iff_right rfl, splitDotted, splitText_joinDotted hne,
    variableName_filter_eq_iff hpieces (mt eq_of_flatMap_splitText hgiven), List.mem_flatMap]
  push Not
  rfl

/-- The command names every property like the build exactly when all dots within segments stand
alone. -/
theorem variablesBy_splitText_eq_iff (hstore : store.WellFormed) (above : Option String) :
    store.variablesBy (splitText '.') above = store.ownVariables above ↔
      ∀ leaf ∈ store.leavesUnder above, ∀ segment ∈ leaf.1, HasLoneDots segment.toList := by
  rw [variablesBy, ownVariables, List.map_inj_left]
  refine forall₂_congr fun leaf hleaf => ?_
  obtain ⟨hne, -⟩ := ne_nil_of_mem_leaves hstore (mem_leaves_of_mem_leavesUnder hleaf)
  rw [Prod.mk.injEq, and_iff_right rfl, splitText_joinDotted hne,
    variableName_flatMap_splitText_eq_iff]

end TokenStore

/-- The lines of a listing. -/
def listingText (entries : List (String × String)) : String :=
  String.join (entries.map fun entry => entry.1 ++ "\t" ++ entry.2 ++ "\n")

theorem Command.listing_eq (store : TokenStore) (above : Option String) :
    Command.listing store above = listingText (store.variablesBy (splitText '.') above) := by
  rw [listing, listingText, store.pathsUnder_eq_map, TokenStore.variablesBy, List.map_map,
    List.map_map]
  rfl

/-- A plain segment is its own only piece, and it has no dots. -/
theorem IsPlainSegment.pieces {segment : String} (h : IsPlainSegment segment) :
    "" ∉ splitText '.' segment ∧ HasLoneDots segment.toList := by
  refine ⟨?_, hasLoneDots_of_not_mem h.2⟩
  rw [splitText, splitAt_of_not_mem h.2, List.map_singleton, String.ofList_toList,
    List.mem_singleton]
  exact Ne.symm h.1

namespace StylesheetSource

/-- What the tool and the command list for a store, and what they should list: the dotted paths
of the leaves at and below the given one, each with the property that the build writes for it.
The tool and the command agree exactly when no segment of such a leaf has an empty piece, and
the command agrees with the build exactly when no dot of such a segment stands next to a
separator. So both listings are right exactly when both conditions hold, and this is so when the
paths are addressable. -/
theorem listings_eq_ownVariables_iff (source : StylesheetSource)
    (hstore : source.store.IsAccepted) (above : Option String) :
    (∀ (session later : Session) name time,
      session.store name = (.ok source.store, later) →
      session.serve time (.listPaths name above) =
        (.ok (.paths (source.store.variablesBy splitDotted above)), later)) ∧
    (∀ inputs files time, Command.source inputs files = .ok source →
      Command.run (.list inputs above) time files =
        (.ok (0, listingText (source.store.variablesBy (splitText '.') above)), { files })) ∧
    (source.store.variablesBy splitDotted above =
        source.store.variablesBy (splitText '.') above ↔
      ∀ leaf ∈ source.store.leavesUnder above, ∀ segment ∈ leaf.1,
        "" ∉ splitText '.' segment) ∧
    (source.store.variablesBy (splitText '.') above = source.store.ownVariables above ↔
      ∀ leaf ∈ source.store.leavesUnder above, ∀ segment ∈ leaf.1,
        HasLoneDots segment.toList) ∧
    ((source.store.variablesBy splitDotted above = source.store.ownVariables above ∧
        source.store.variablesBy (splitText '.') above = source.store.ownVariables above) ↔
      ∀ leaf ∈ source.store.leavesUnder above, ∀ segment ∈ leaf.1,
        "" ∉ splitText '.' segment ∧ HasLoneDots segment.toList) ∧
    ((∀ leaf ∈ source.store.leavesUnder above, IsAddressable leaf.1) →
      source.store.variablesBy splitDotted above = source.store.ownVariables above ∧
        source.store.variablesBy (splitText '.') above = source.store.ownVariables above) ∧
    ∃ sets, source.build = .ok sets ∧ source.Accounts sets := by
  have hwell := hstore.wellFormed
  have hserved := TokenStore.variablesBy_splitDotted_eq_iff hwell above
  have hprinted := TokenStore.variablesBy_splitText_eq_iff hwell above
  have hboth : (source.store.variablesBy splitDotted above = source.store.ownVariables above ∧
        source.store.variablesBy (splitText '.') above = source.store.ownVariables above) ↔
      ∀ leaf ∈ source.store.leavesUnder above, ∀ segment ∈ leaf.1,
        "" ∉ splitText '.' segment ∧ HasLoneDots segment.toList := by
    simp only [forall_and, ← hserved, ← hprinted]
    constructor
    · rintro ⟨htool, hcommand⟩
      exact ⟨htool.trans hcommand.symm, hcommand⟩
    · rintro ⟨hsame, hcommand⟩
      exact ⟨hsame.trans hcommand, hcommand⟩
  refine ⟨?_, ?_, hserved, hprinted, hboth, ?_, ?_⟩
  · intro session later name time hname
    simp only [Session.serve, hname, source.store.pathsUnder_eq_map, Except.map, List.map_map]
    rfl
  · intro inputs files time hsource
    simp only [Command.run, Command.inputs, hsource, Command.listing_eq]
  · intro haddressable
    refine hboth.mpr fun leaf hleaf segment hsegment => ?_
    exact (haddressable leaf hleaf segment hsegment).pieces
  · exact ⟨_, source.build_eq, accounts_build hwell source.build_eq⟩

/-- A segment of the small store is empty. The tool lists one property for two tokens, and the
build writes one of them under another name, which the command lists. -/
theorem listings_eq_ownVariables_small :
    Sample.source.store.IsAccepted ∧
      Sample.source.store.variablesBy splitDotted (some "a") =
        [("a.b", "--mond-a-b"), ("a..b", "--mond-a-b")] ∧
      Sample.source.store.ownVariables (some "a") =
        [("a.b", "--mond-a-b"), ("a..b", "--mond-a--b")] ∧
      Sample.source.store.variablesBy splitDotted (some "a") ≠
        Sample.source.store.variablesBy (splitText '.') (some "a") ∧
      Sample.source.store.variablesBy (splitText '.') (some "a") =
        Sample.source.store.ownVariables (some "a") ∧
      ∃ sets, Sample.source.build = .ok sets ∧
        sets.light.get? "--mond-a--b" = some "#111111" := by
  obtain ⟨-, -, hserved, hprinted, -, -, sets, hbuild, -⟩ :=
    listings_eq_ownVariables_iff Sample.source Sample.store_isAccepted (some "a")
  have hget : Sample.source.build.toOption.bind (fun sets => sets.light.get? "--mond-a--b") =
      some "#111111" := by
    decide +kernel
  rw [hbuild] at hget
  refine ⟨Sample.store_isAccepted, by decide +kernel, by decide +kernel, ?_, ?_, sets, hbuild,
    hget⟩
  · intro hsame
    have hempty : ∃ leaf ∈ Sample.source.store.leavesUnder (some "a"), ∃ segment ∈ leaf.1,
        "" ∈ splitText '.' segment := by
      decide +kernel
    obtain ⟨leaf, hleaf, segment, hsegment, hpiece⟩ := hempty
    exact hserved.mp hsame leaf hleaf segment hsegment hpiece
  · rw [hprinted]
    decide +kernel

end StylesheetSource

end DesignTokens
