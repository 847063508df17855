import DesignTokens.Store.Listing
import DesignTokens.Tools.Call
import DesignTokens.Tools.Reply

/-!
# Sessions of tool calls

A session serves calls against the files of a project: stores in `tokens`, brand themes in
`brands`, and stylesheets that are written to `dist`. What a call loads is remembered for
the calls after it.
-/

namespace DesignTokens

/-- What tool calls work on. -/
structure Session where
  catalog : Catalog
  output : Path
  files : FileTree

namespace Session

/-- The session of a project at a path. -/
def start (root : Path) (files : FileTree) : Session where
  catalog := { project := some (root.child "tokens"), brands := some (root.child "brands") }
  output := root.child "dist"
  files := files

/-- The store of a name. -/
def store (session : Session) (name : String) : Except ToolError TokenStore × Session :=
  let (found, _, catalog) := session.catalog.getStore session.files name
  let session := { session with catalog }
  match found with
  | .ok (some store) => (.ok store, session)
  | .ok none => (.error (.storeNotFound name), session)
  | .error error => (.error (.load error), session)

/-- The brand theme of a name; no name and the empty one stand for none. -/
def brand (session : Session) (name : Option String) :
    Except ToolError (Option BrandTheme) × Session :=
  match name with
  | none => (.ok none, session)
  | some name =>
      if name = "" then (.ok none, session)
      else
        let (found, catalog) := session.catalog.getBrand session.files name
        let session := { session with catalog }
        match found with
        | .ok (some brand) => (.ok (some brand), session)
        | .ok none => (.error (.brandNotFound name), session)
        | .error error => (.error (.load error), session)

/-- The store and the brand theme of a call. -/
def source (session : Session) (storeName : String) (brandName : Option String) :
    Except ToolError StylesheetSource × Session :=
  match session.store storeName with
  | (.error error, session) => (.error error, session)
  | (.ok store, session) =>
      let (brand, session) := session.brand brandName
      (brand.map fun brand => { store, brand }, session)

/-- Resolves one token of a source in the theme of a name. -/
def resolveIn (source : StylesheetSource) (path themeName : String) :
    Except ToolError ToolReply :=
  match Theme.ofName? themeName with
  | none => .error (.unknownTheme themeName)
  | some theme =>
      let resolution := source.resolver.resolve (.dotted path) theme
      match resolution.unwrap with
      | .error error => .error (.unresolved path error)
      | .ok value =>
          .ok (.resolved resolution.path theme (variableName (splitDotted resolution.path)) value)

/-- The stylesheet of a source, with what went into it. -/
def stylesheetOf (source : StylesheetSource) (time : Moment) : Except ToolError ToolReply :=
  match source.build with
  | .error error => .error (.build (.filling error))
  | .ok sets =>
      match source.render sets time with
      | .error error => .error (.build (.header error))
      | .ok css => .ok (.stylesheet sets.light.size sets.dark.size sets.skipped css)

/-- Writes a stylesheet to the output directory, which is made if it is not there. -/
def writeCss (session : Session) (css outputName : String) :
    Except ToolError ToolReply × Session :=
  match session.files.makeDirectories session.output with
  | (.error error, files) => (.error (.file error), { session with files })
  | (.ok (), files) =>
      let path := session.output.child (outputName ++ ".css")
      match files.writeText path css with
      | (.error error, files) => (.error (.file error), { session with files })
      | (.ok (), files) =>
          (.ok (.written path (countVariables css) (sizeHundredths css)),
            { session with files })

/-- Serves a call at a given time. -/
def serve (session : Session) (time : Moment) : ToolCall → Except ToolError ToolReply × Session
  | .listStores =>
      let (stores, _) := session.catalog.listStores session.files
      ((stores.mapError .load).map .stores, session)
  | .describeStore name =>
      let (store, session) := session.store name
      (store.map fun store => .description (.ofStore store), session)
  | .listPaths name above =>
      let (store, session) := session.store name
      (store.map fun store => .paths ((store.pathsUnder above).map fun path =>
        (path, variableName (splitDotted path))), session)
  | .resolve path themeName storeName brandName =>
      let (source, session) := session.source storeName brandName
      (source.bind fun source => resolveIn source path themeName, session)
  | .copyStore name =>
      let (copied, files, catalog) := session.catalog.copyToProject session.files name
      let session := { session with files, catalog }
      match copied with
      | .ok (some path) => (.ok (.copied path), session)
      | .ok none => (.error (.storeNotFound name), session)
      | .error error => (.error (.save error), session)
  | .generateStylesheet storeName brandName =>
      let (source, session) := session.source storeName brandName
      (source.bind fun source => stylesheetOf source time, session)
  | .writeStylesheet storeName brandName outputName =>
      match session.source storeName brandName with
      | (.error error, session) => (.error error, session)
      | (.ok source, session) =>
          match source.generate time with
          | .error error => (.error (.build error), session)
          | .ok css => session.writeCss css outputName

end Session

end DesignTokens
