import ElementProps.Completer
import ElementProps.Documents
import ElementProps.Edit
import ElementProps.Settings
import ElementProps.Text.Quoted
import ElementProps.Uri

/-!
# Sessions with a client

A session holds what later answers depend on: the encoding of positions, the workspace root, the
user's properties and the open documents. Each request gets one reply, and a request that fails
leaves all of them as they were.

The protocol framework between the client and the handlers is not part of this, with one exception:
before the first handler it reads the root that the client names (`checkRoot`), and a root that
cannot be read fails the request. All other requests are direct calls of the handlers; in particular
a document is opened without the framework's own check of its URI.

* `Request`, `Answer`    what a client sends and gets back;
* `Session.step`         the session after a request, with the reply;
* `Session.run`          the session after a list of requests, with the replies;
* `run_append`           two lists of requests run one after the other.
-/

namespace ElementProps

/-! ## requests and answers -/

/-- what a client says of itself at the start -/
structure Setup where
  /-- the names of the encodings it offers, if it names any -/
  encodings : Option (List String)
  /-- the URIs of its workspace folders -/
  folders : List String
  rootUri : Option String
  rootPath : Option String
  /-- its settings; `null` for none -/
  options : Json

inductive Request where
  | setup (s : Setup)
  /-- the settings have changed; `null` for no settings -/
  | configured (settings : Json)
  | opened (uri : String) (languageId : Option String) (content : Text)
  | changed (uri : String) (edits : List (Edit (Int × Int)))
  | closed (uri : String)
  /-- are completions offered for this document -/
  | supports (uri : String)
  /-- the completions at a line and character -/
  | completion (uri : String) (line character : Int)

inductive RequestError where
  | position (e : PositionError)
  | uri (e : Uri.Error)
  /-- the root path begins with the name of a server, and nothing follows it -/
  | bareServer
  deriving DecidableEq, Repr

def RequestError.message : RequestError → String
  | .position e => e.message
  | .uri e => e.message
  | .bareServer => "substring not found"

inductive Answer where
  | ready (encoding : Encoding) (root : Option String) (props : Option PropertyMap)
  | settings (props : Option PropertyMap)
  /-- the document of the request as it now is, and the URIs of all open documents -/
  | documents (document : Option Document) (uris : List String)
  | supported (yes : Bool)
  | completions (items : List Completion)
  | failed (e : RequestError)

/-- an answer with what was reported on the way to it -/
structure Reply where
  answer : Answer
  log : List Log.Record

/-! ## the state of a session -/

structure Session where
  encoding : Encoding := .utf16
  root : Option String := none
  props : Option PropertyMap := none
  docs : Documents := []

namespace Session

def languageIds : List String := ["lua", "luau"]

/-- the ends of file names for which completions are offered whatever the language -/
def fileSuffixes : List String := [".lua", ".luau"]

/-- the characters after which a client asks for completions -/
def triggers : List String := [" ", "\n"]

/-! ### settings -/

def configuredReport (props : Option PropertyMap) : Log.Record :=
  let classes := Text.sorted (props.getD []).classes
  .info .session ("User properties configured for: "
    ++ if classes.isEmpty then "no classes" else Text.quotedList classes)

/-- the session after a payload of settings, with the reports; `null` changes nothing -/
def configure (s : Session) (payload : Json) : Session × List Log.Record :=
  match payload with
  | .null => (s, [])
  | payload =>
    let (props, warnings) := ofPayload payload
    ({ s with props := props }, warnings.map Warning.record ++ [configuredReport props])

/-! ### the start -/

/-- The workspace root that a client names: its first folder, else a root that is not empty, else
the root already known. -/
def rootOf (p : Setup) (known : Option String) : Except Uri.Error (Option String) :=
  match p.folders, p.rootUri.getD "", p.rootPath.getD "" with
  | folder :: _, _, _ => (Uri.path folder).map fun t => some (String.ofList t)
  | [], uri, path =>
    if !uri.isEmpty then (Uri.path uri).map fun t => some (String.ofList t)
    else if !path.isEmpty then .ok (some path)
    else .ok known

/-- a path that begins with two slashes and has none after them -/
def isBareServer : Text → Bool
  | '/' :: '/' :: t => !t.contains '/'
  | _ => false

/-- The root that a client names must be readable, even when a folder comes before it: its URI, or
its path when there is no URI. -/
def checkRoot (p : Setup) : Except RequestError Unit :=
  match p.rootUri, p.rootPath with
  | some uri, _ => ((Uri.path uri).mapError .uri).map fun _ => ()
  | none, some path => if isBareServer path.toList then .error .bareServer else .ok ()
  | none, none => .ok ()

/-- The session after a client has introduced itself. The encoding is settled first; when the folder
cannot be read, nothing else is. -/
def setup (s : Session) (p : Setup) : Session × List Log.Record :=
  let s := { s with encoding := .negotiate p.encodings }
  let hello := Log.Record.info .session "Initializing Luau Props LSP server"
  match rootOf p s.root with
  | .error _ => (s, [hello])
  | .ok root =>
    let (s, log) := { s with root := root }.configure p.options
    (s, hello :: .info .session ("Workspace root: " ++ root.getD "None") :: log)

/-! ### documents and completions -/

/-- the session after a change of a document; an unknown document stays unknown -/
def change (s : Session) (uri : String) (edits : List (Edit Position)) :
    Session × List Log.Record :=
  match s.docs.get? uri with
  | none => (s, [.debug .documents ("Change for unopened document: " ++ uri)])
  | some d =>
    let d := { d with content := applyEdits s.encoding d.content edits }
    ({ s with docs := s.docs.insert uri d }, [])

def hasKnownSuffix (path : Text) : Bool := fileSuffixes.any fun e => e.toList.isSuffixOf path

/-- completions are offered for an open document: by its language, else by its file name -/
def serves (s : Session) (uri : String) : Except Uri.Error Bool :=
  match s.docs.get? uri with
  | none => .ok false
  | some d =>
    if d.languageId.any languageIds.contains then .ok true
    else (Uri.path uri).map hasKnownSuffix

def complete (s : Session) (uri : String) (p : Position) :
    Except Uri.Error (List Completion × List Log.Record) :=
  (s.serves uri).map fun yes =>
    match yes, s.docs.get? uri with
    | true, some d =>
      let found := ({} : Completer).find s.props d.content (p.offset s.encoding d.content)
      let items := found.completions
      let note := if items.isEmpty then [] else
        [Log.Record.debug .requests (toString items.length ++ " property completions at "
          ++ uri ++ ":" ++ toString p.line)]
      (items, found.log ++ note)
    | _, _ => ([], [])

/-! ### steps -/

def shown (s : Session) (uri : String) (log : List Log.Record) : Session × Reply :=
  (s, ⟨.documents (s.docs.get? uri) s.docs.uris, log⟩)

/-- the answer to a request that fails: the session stays as it is -/
def refused (s : Session) (e : RequestError) : Session × Reply := (s, ⟨.failed e, []⟩)

def step (s : Session) : Request → Session × Reply
  | .setup p =>
    match checkRoot p with
    | .error e => s.refused e
    | .ok () =>
      let (s, log) := s.setup p
      (s, ⟨.ready s.encoding s.root s.props, log⟩)
  | .configured payload =>
    let (s, log) := s.configure payload
    (s, ⟨.settings s.props, log⟩)
  | .opened uri languageId content =>
    { s with docs := s.docs.insert uri ⟨languageId, content⟩ }.shown uri
      [.info .documents ("Opened document: " ++ uri)]
  | .changed uri edits =>
    match edits.mapM Edit.check with
    | .error e => s.refused (.position e)
    | .ok edits =>
      let (s, log) := s.change uri edits
      s.shown uri log
  | .closed uri =>
    { s with docs := s.docs.erase uri }.shown uri
      [.info .documents ("Closed document: " ++ uri)]
  | .supports uri =>
    match s.serves uri with
    | .error e => s.refused (.uri e)
    | .ok yes => (s, ⟨.supported yes, []⟩)
  | .completion uri line character =>
    match Position.check line character with
    | .error e => s.refused (.position e)
    | .ok p =>
      match s.complete uri p with
      | .error e => s.refused (.uri e)
      | .ok (items, log) => (s, ⟨.completions items, log⟩)

def run (s : Session) : List Request → Session × List Reply
  | [] => (s, [])
  | r :: rs =>
    let (s, reply) := s.step r
    let (s, replies) := s.run rs
    (s, reply :: replies)

theorem run_nil (s : Session) : s.run [] = (s, []) := rfl
theorem run_cons (s : Session) (r : Request) (rs : List Request) :
    s.run (r :: rs) = (((s.step r).1.run rs).1, (s.step r).2 :: ((s.step r).1.run rs).2) := rfl

theorem run_append (s : Session) (rs qs : List Request) :
    s.run (rs ++ qs) = (((s.run rs).1.run qs).1, (s.run rs).2 ++ ((s.run rs).1.run qs).2) := by
  induction rs generalizing s with
  | nil => rfl
  | cons r rs ih => simp [run_cons, ih]

end Session

end ElementProps
