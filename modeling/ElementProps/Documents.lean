import ElementProps.Text.Basic
import ElementProps.Text.Sorted

/-!
# Open documents

The documents that a client has open, by URI. What the operations do is said through `get?`.

* `Documents.insert`, `Documents.erase`   a document opened or changed, and one closed;
* `get?_insert_self`, `get?_insert_of_ne`, `get?_erase_self`, `get?_erase_of_ne`
  each operation acts on its own URI only.
-/

namespace ElementProps

structure Document where
  languageId : Option String
  content : Text
  deriving DecidableEq, Repr

/-- the open documents by URI, each URI once -/
abbrev Documents := List (String × Document)

namespace Documents

def get? (ds : Documents) (uri : String) : Option Document := ds.lookup uri

theorem get?_nil (uri : String) : get? [] uri = none := rfl

theorem get?_cons_self (uri : String) (d : Document) (ds : Documents) :
    get? ((uri, d) :: ds) uri = some d := by
  simp [get?]

theorem get?_cons_of_ne {uri other : String} (h : other ≠ uri) (d : Document) (ds : Documents) :
    get? ((uri, d) :: ds) other = ds.get? other := by
  have h' : (other == uri) = false := by simpa using h
  simp only [get?, List.lookup_cons, h']

def erase (ds : Documents) (uri : String) : Documents := ds.filter fun d => d.1 != uri

/-- the documents with one under a URI, in the place of any other -/
def insert (ds : Documents) (uri : String) (d : Document) : Documents := (uri, d) :: ds.erase uri

/-- the URIs of the open documents, sorted -/
def uris (ds : Documents) : List String := Text.sorted (ds.map Prod.fst)

theorem erase_cons_self (uri : String) (d : Document) (ds : Documents) :
    erase ((uri, d) :: ds) uri = ds.erase uri := by
  simp [erase]

theorem erase_cons_of_ne {uri other : String} (h : uri ≠ other) (d : Document) (ds : Documents) :
    erase ((uri, d) :: ds) other = (uri, d) :: ds.erase other := by
  simp [erase, h]

theorem get?_erase_self (ds : Documents) (uri : String) : (ds.erase uri).get? uri = none := by
  induction ds with
  | nil => rfl
  | cons e ds ih =>
    obtain ⟨u, d⟩ := e
    by_cases h : u = uri
    · rw [h, erase_cons_self, ih]
    · rw [erase_cons_of_ne h, get?_cons_of_ne (Ne.symm h), ih]

theorem get?_erase_of_ne (ds : Documents) {uri other : String} (h : other ≠ uri) :
    (ds.erase uri).get? other = ds.get? other := by
  induction ds with
  | nil => rfl
  | cons e ds ih =>
    obtain ⟨u, d⟩ := e
    by_cases hu : u = uri
    · rw [hu, erase_cons_self, ih, get?_cons_of_ne h]
    · rw [erase_cons_of_ne hu]
      by_cases ho : other = u
      · rw [ho, get?_cons_self, get?_cons_self]
      · rw [get?_cons_of_ne ho, get?_cons_of_ne ho, ih]

theorem get?_insert_self (ds : Documents) (uri : String) (d : Document) :
    (ds.insert uri d).get? uri = some d := get?_cons_self uri d _

theorem get?_insert_of_ne (ds : Documents) {uri other : String} (h : other ≠ uri) (d : Document) :
    (ds.insert uri d).get? other = ds.get? other := by
  rw [insert, get?_cons_of_ne h, get?_erase_of_ne ds h]

end Documents

end ElementProps
