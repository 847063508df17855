import DesignTokens.Proofs.CurrentCatalogs
import DesignTokens.Tools.Session

/-!
# What calls change

A session keeps its folders, and most calls change no file. The built-in store is copied, and a
stylesheet is written, after the directories of the folder have been made: then one file is put at
one path, or nothing is. Main statement: every call has one of these effects, together with its
reply.
-/

namespace DesignTokens

/-- The path of the token file of a name. -/
def tokenPath (directory : Path) (name : String) : Path := directory.child (tokenFileName name)

/-- The path of the stylesheet of a name. -/
def stylesheetPath (directory : Path) (name : String) : Path := directory.child (name ++ ".css")

/-- The lone surrogates of a text, which cannot be written. -/
def loneSurrogates? (text : String) : Option Text.SurrogateRun :=
  Text.surrogateRun? (fun _ => false) text.toList

/-- A call asks for something and puts no file anywhere. -/
def ToolCall.IsAsking : ToolCall → Prop
  | copyStore _ => False
  | writeStylesheet _ _ _ => False
  | _ => True

/-- A file is said to have been put somewhere. -/
def ToolReply.IsPut : ToolReply → Prop
  | copied _ => True
  | written _ _ _ => True
  | _ => False

/-! ## Files and texts -/

namespace FileTree

variable {files : FileTree} {path : Path} {text : String}

/-- A text is written as it is; one with lone surrogates leaves the file empty. -/
theorem writeText_cases (files : FileTree) (path : Path) (text : String) :
    (∃ error, files.writeText path text = (.error error, files)) ∨
      (∃ after, files.write path (.text text) = .ok after ∧ loneSurrogates? text = none ∧
        files.writeText path text = (.ok (), after)) ∨
      ∃ run after, files.write path (.text "") = .ok after ∧ loneSurrogates? text = some run ∧
        files.writeText path text = (.error (.surrogates run), after) := by
  unfold writeText loneSurrogates?
  dsimp only
  cases Text.surrogateRun? (fun _ => false) text.toList with
  | none =>
      rw [if_neg (by exact Bool.false_ne_true)]
      cases files.write path (.text text) with
      | error error => exact Or.inl ⟨error, rfl⟩
      | ok after => exact Or.inr (Or.inl ⟨after, rfl, rfl, rfl⟩)
  | some run =>
      rw [if_pos (by rfl)]
      cases files.write path (.text "") with
      | error error => exact Or.inl ⟨error, rfl⟩
      | ok after => exact Or.inr (Or.inr ⟨run, after, rfl, rfl, rfl⟩)

end FileTree

namespace Session

variable {session : Session}

/-! ## Folders -/

/-- Two sessions have the same folders. -/
structure SameFolders (before after : Session) : Prop where
  project : after.catalog.project = before.catalog.project
  brands : after.catalog.brands = before.catalog.brands
  output : after.output = before.output

namespace SameFolders

variable {first second third : Session}

theorem refl (session : Session) : SameFolders session session := ⟨rfl, rfl, rfl⟩

theorem trans (h : SameFolders first second) (hnext : SameFolders second third) :
    SameFolders first third :=
  ⟨hnext.project.trans h.project, hnext.brands.trans h.brands, hnext.output.trans h.output⟩

end SameFolders

/-- A session is only asked: its folders and its files are the same. -/
structure IsAsked (before after : Session) : Prop extends SameFolders before after where
  files : after.files = before.files

theorem isAsked_store (session : Session) (name : String) :
    IsAsked session (session.store name).2 := by
  have hget : (session.catalog.getStore session.files name).2.2.project =
      session.catalog.project ∧
      (session.catalog.getStore session.files name).2.2.brands = session.catalog.brands := by
    unfold Catalog.getStore
    split
    · exact ⟨rfl, rfl⟩
    · dsimp only
      split <;> exact ⟨rfl, rfl⟩
  unfold store
  dsimp only
  split <;> exact ⟨⟨hget.1, hget.2, rfl⟩, rfl⟩

theorem isAsked_brand (session : Session) (name : Option String) :
    IsAsked session (session.brand name).2 := by
  have hget (name : String) : (session.catalog.getBrand session.files name).2.project =
      session.catalog.project ∧
      (session.catalog.getBrand session.files name).2.brands = session.catalog.brands := by
    unfold Catalog.getBrand
    split
    · exact ⟨rfl, rfl⟩
    · split <;> exact ⟨rfl, rfl⟩
  unfold brand
  split
  · exact ⟨SameFolders.refl session, rfl⟩
  · split
    · exact ⟨SameFolders.refl session, rfl⟩
    · rename_i name _
      dsimp only
      split <;> exact ⟨⟨(hget name).1, (hget name).2, rfl⟩, rfl⟩

theorem isAsked_source (session : Session) (storeName : String) (brandName : Option String) :
    IsAsked session (session.source storeName brandName).2 := by
  have hstore := isAsked_store session storeName
  unfold source
  split
  · rename_i heq
    rw [heq] at hstore
    exact hstore
  · rename_i found middle heq
    rw [heq] at hstore
    have hbrand := isAsked_brand middle brandName
    exact ⟨hstore.toSameFolders.trans hbrand.toSameFolders, hbrand.files.trans hstore.files⟩

/-- Saving a store leaves the folders of a catalog. -/
theorem folders_copyToProject (catalog : Catalog) (files : FileTree) (name : String) :
    (catalog.copyToProject files name).2.2.project = catalog.project ∧
      (catalog.copyToProject files name).2.2.brands = catalog.brands := by
  unfold Catalog.copyToProject
  split
  · exact ⟨rfl, rfl⟩
  · rename_i directory hproject
    split
    · exact ⟨rfl, rfl⟩
    · split
      · exact ⟨rfl, rfl⟩
      · exact ⟨rfl, rfl⟩
      · dsimp only
        rcases Catalog.saveStore_cases hproject files Builtin.store (some name) with
          ⟨error, heq⟩ | ⟨after, -, -, heq⟩
        · rw [heq]
          exact ⟨rfl, rfl⟩
        · rw [heq]
          exact ⟨rfl, rfl⟩

theorem sameFolders_writeCss (session : Session) (css outputName : String) :
    SameFolders session (session.writeCss css outputName).2 := by
  unfold writeCss
  split
  · exact ⟨rfl, rfl, rfl⟩
  · dsimp only
    split <;> exact ⟨rfl, rfl, rfl⟩

/-- A session keeps its folders. -/
theorem sameFolders_serve (session : Session) (time : Moment) (call : ToolCall) :
    SameFolders session (session.serve time call).2 := by
  cases call with
  | listStores => exact SameFolders.refl session
  | describeStore name => exact (isAsked_store session name).toSameFolders
  | listPaths name above => exact (isAsked_store session name).toSameFolders
  | resolve path themeName storeName brandName =>
      exact (isAsked_source session storeName brandName).toSameFolders
  | generateStylesheet storeName brandName =>
      exact (isAsked_source session storeName brandName).toSameFolders
  | copyStore name =>
      obtain ⟨hproject, hbrands⟩ := folders_copyToProject session.catalog session.files name
      simp only [serve]
      split <;> exact ⟨hproject, hbrands, rfl⟩
  | writeStylesheet storeName brandName outputName =>
      have hsource := isAsked_source session storeName brandName
      simp only [serve]
      split
      · rename_i heq
        rw [heq] at hsource
        exact hsource.toSameFolders
      · rename_i source middle heq
        rw [heq] at hsource
        split
        · exact hsource.toSameFolders
        · exact hsource.toSameFolders.trans (sameFolders_writeCss middle _ outputName)

/-! ## Effects -/

/-- What a call does to the files, with its reply. -/
inductive Effect (session : Session) (time : Moment) :
    ToolCall → Except ToolError ToolReply → FileTree → Prop where
  /-- Nothing changes, and nothing is said to be put anywhere. -/
  | asked {call reply} (h : ∀ answer, reply = .ok answer → ¬ answer.IsPut) :
      Effect session time call reply session.files
  /-- The built-in store is not copied; directories of its folder have been made. -/
  | copyFailed {directory error} (hproject : session.catalog.project = some directory) :
      Effect session time (.copyStore defaultStoreName) (.error (.save error))
        (session.files.makeDirectories directory).2
  /-- The built-in store is put where nothing was found. -/
  | copied {directory after} (hproject : session.catalog.project = some directory)
      (hfree : session.files.holds (tokenPath directory defaultStoreName) = .ok false)
      (hmade : (session.files.makeDirectories directory).1 = .ok ())
      (hwrite : (session.files.makeDirectories directory).2.write
        (tokenPath directory defaultStoreName) (.document (Yaml.reread Builtin.store.toDatum)) =
          .ok after) :
      Effect session time (.copyStore defaultStoreName)
        (.ok (.copied (tokenPath directory defaultStoreName))) after
  /-- A stylesheet is not written; directories of its folder have been made. -/
  | writeFailed {storeName brandName outputName error} :
      Effect session time (.writeStylesheet storeName brandName outputName)
        (.error (.file error)) (session.files.makeDirectories session.output).2
  /-- A stylesheet with lone surrogates leaves an empty file. -/
  | cut {storeName brandName outputName source css run after}
      (hsource : (session.source storeName brandName).1 = .ok source)
      (hcss : source.generate time = .ok css) (hrun : loneSurrogates? css = some run)
      (hmade : (session.files.makeDirectories session.output).1 = .ok ())
      (hwrite : (session.files.makeDirectories session.output).2.write
        (stylesheetPath session.output outputName) (.text "") = .ok after) :
      Effect session time (.writeStylesheet storeName brandName outputName)
        (.error (.file (.surrogates run))) after
  /-- A stylesheet is written. -/
  | written {storeName brandName outputName source css after}
      (hsource : (session.source storeName brandName).1 = .ok source)
      (hcss : source.generate time = .ok css)
      (hmade : (session.files.makeDirectories session.output).1 = .ok ())
      (hwrite : (session.files.makeDirectories session.output).2.write
        (stylesheetPath session.output outputName) (.text css) = .ok after) :
      Effect session time (.writeStylesheet storeName brandName outputName)
        (.ok (.written (stylesheetPath session.output outputName) (countVariables css)
          (sizeHundredths css))) after

variable {time : Moment}

/-- An answer that is made of another one is not said to be put anywhere. -/
theorem not_isPut_of_map {α : Type} {outcome : Except ToolError α} {make : α → ToolReply}
    (h : ∀ value, ¬ (make value).IsPut) :
    ∀ answer, outcome.map make = .ok answer → ¬ answer.IsPut := by
  intro answer hanswer
  cases outcome with
  | error error => cases hanswer
  | ok value =>
      cases hanswer
      exact h value

theorem resolveIn_not_isPut {source : StylesheetSource} {path themeName : String}
    {answer : ToolReply} (h : resolveIn source path themeName = .ok answer) : ¬ answer.IsPut := by
  unfold resolveIn at h
  split at h
  · cases h
  · dsimp only at h
    split at h
    · cases h
    · cases h
      exact id

theorem stylesheetOf_not_isPut {source : StylesheetSource} {answer : ToolReply}
    (h : stylesheetOf source time = .ok answer) : ¬ answer.IsPut := by
  unfold stylesheetOf at h
  split at h
  · cases h
  · split at h
    · cases h
    · cases h
      exact id

theorem not_isPut_of_error {error : ToolError} :
    ∀ answer, (.error error : Except ToolError ToolReply) = .ok answer → ¬ answer.IsPut :=
  fun _ h => by cases h

/-- What asking for a source and answering from it does. -/
theorem effect_of_source {call : ToolCall} {storeName : String} {brandName : Option String}
    {answerFrom : StylesheetSource → Except ToolError ToolReply}
    (hserve : session.serve time call =
      ((session.source storeName brandName).1.bind answerFrom,
        (session.source storeName brandName).2))
    (h : ∀ source answer, answerFrom source = .ok answer → ¬ answer.IsPut) :
    Effect session time call (session.serve time call).1 (session.serve time call).2.files := by
  rw [hserve, (isAsked_source session storeName brandName).files]
  apply Effect.asked
  intro answer hanswer
  cases hsource : (session.source storeName brandName).1 with
  | error error =>
      rw [hsource] at hanswer
      cases hanswer
  | ok source =>
      rw [hsource] at hanswer
      exact h source answer hanswer

theorem effect_copyStore (session : Session) (time : Moment) (name : String) :
    Effect session time (.copyStore name) (session.serve time (.copyStore name)).1
      (session.serve time (.copyStore name)).2.files := by
  simp only [serve]
  unfold Catalog.copyToProject
  cases hproject : session.catalog.project with
  | none => exact Effect.asked not_isPut_of_error
  | some directory =>
      dsimp only
      by_cases hname : name = defaultStoreName
      · subst hname
        rw [if_neg (not_not.mpr rfl)]
        cases hholds : session.files.holds (directory.child (tokenFileName defaultStoreName)) with
        | error error => exact Effect.asked not_isPut_of_error
        | ok there =>
            cases there with
            | true => exact Effect.asked not_isPut_of_error
            | false =>
                dsimp only
                rcases Catalog.saveStore_cases hproject session.files Builtin.store
                    (some defaultStoreName) with ⟨error, heq⟩ | ⟨after, hmade, hwrite, heq⟩
                · rw [heq]
                  exact Effect.copyFailed hproject
                · rw [heq]
                  exact Effect.copied hproject hholds hmade hwrite
      · rw [if_pos hname]
        exact Effect.asked not_isPut_of_error

/-- Writing makes the directories of the output and puts one file there, or none. -/
theorem effect_writeCss {storeName outputName css : String} {brandName : Option String}
    {source : StylesheetSource} {middle : Session}
    (hsource : session.source storeName brandName = (.ok source, middle))
    (hcss : source.generate time = .ok css) :
    Effect session time (.writeStylesheet storeName brandName outputName)
      (middle.writeCss css outputName).1 (middle.writeCss css outputName).2.files := by
  have hasked := isAsked_source session storeName brandName
  have hfirst := congrArg Prod.fst hsource
  rw [hsource] at hasked
  unfold writeCss
  rw [hasked.output, hasked.files]
  cases hmade : session.files.makeDirectories session.output with
  | mk result files =>
      have hmadeFiles : files = (session.files.makeDirectories session.output).2 := by rw [hmade]
      cases result with
      | error error =>
          rw [hmadeFiles]
          exact Effect.writeFailed
      | ok done =>
          have hmadeOk : (session.files.makeDirectories session.output).1 = .ok () := by rw [hmade]
          dsimp only
          rcases FileTree.writeText_cases files (session.output.child (outputName ++ ".css")) css
            with ⟨error, heq⟩ | ⟨after, hwrite, -, heq⟩ | ⟨run, after, hwrite, hrun, heq⟩
          · rw [heq, hmadeFiles]
            exact Effect.writeFailed
          · rw [heq]
            exact Effect.written hfirst hcss hmadeOk (hmadeFiles ▸ hwrite)
          · rw [heq]
            exact Effect.cut hfirst hcss hrun hmadeOk (hmadeFiles ▸ hwrite)

/-- Every call has one of the effects. -/
theorem effect_serve (session : Session) (time : Moment) (call : ToolCall) :
    Effect session time call (session.serve time call).1 (session.serve time call).2.files := by
  cases call with
  | listStores => exact Effect.asked (not_isPut_of_map fun _ => id)
  | describeStore name =>
      simp only [serve]
      rw [(isAsked_store session name).files]
      exact Effect.asked (not_isPut_of_map fun _ => id)
  | listPaths name above =>
      simp only [serve]
      rw [(isAsked_store session name).files]
      exact Effect.asked (not_isPut_of_map fun _ => id)
  | resolve path themeName storeName brandName =>
      exact effect_of_source rfl fun source answer => resolveIn_not_isPut
  | copyStore name => exact effect_copyStore session time name
  | generateStylesheet storeName brandName =>
      exact effect_of_source rfl fun source answer => stylesheetOf_not_isPut
  | writeStylesheet storeName brandName outputName =>
      have hasked := isAsked_source session storeName brandName
      simp only [serve]
      cases hsource : session.source storeName brandName with
      | mk result middle =>
          rw [hsource] at hasked
          cases result with
          | error error =>
              dsimp only
              rw [hasked.files]
              exact Effect.asked not_isPut_of_error
          | ok source =>
              dsimp only
              cases hcss : source.generate time with
              | error error =>
                  dsimp only
                  rw [hasked.files]
                  exact Effect.asked not_isPut_of_error
              | ok css => exact effect_writeCss hsource hcss

/-- A call that asks for something changes no file. -/
theorem files_serve_of_isAsking {call : ToolCall} (h : call.IsAsking) :
    (session.serve time call).2.files = session.files := by
  have heffect := effect_serve session time call
  generalize (session.serve time call).1 = reply at heffect
  generalize (session.serve time call).2.files = after at heffect ⊢
  cases heffect with
  | asked => rfl
  | _ => exact absurd h id

/-! ## Runs -/

/-- Serves calls one after the other. -/
def run : List (Moment × ToolCall) → Session → List (Except ToolError ToolReply) × Session
  | [], session => ([], session)
  | (time, call) :: rest, session =>
      let (reply, session) := session.serve time call
      let (replies, session) := run rest session
      (reply :: replies, session)

theorem run_cons (time : Moment) (call : ToolCall) (rest : List (Moment × ToolCall))
    (session : Session) :
    run ((time, call) :: rest) session =
      ((session.serve time call).1 :: (run rest (session.serve time call).2).1,
        (run rest (session.serve time call).2).2) := rfl

/-- What every call keeps, a run keeps. -/
theorem run_induction {motive : Session → Prop} (calls : List (Moment × ToolCall))
    (hserve : ∀ session time call, (time, call) ∈ calls → motive session →
      motive (session.serve time call).2)
    (h : motive session) : motive (run calls session).2 := by
  induction calls generalizing session with
  | nil => exact h
  | cons first rest ih =>
      obtain ⟨time, call⟩ := first
      rw [run_cons]
      refine ih (fun session time call hmem => ?_) (hserve session time call List.mem_cons_self h)
      exact hserve session time call (List.mem_cons_of_mem _ hmem)

end Session

end DesignTokens
