import ElementProps.Completer

/-!
# Survey of a text

The finding at every offset of a text, with equal neighbours in one run. Two offsets count as equal
here when they offer equally many completions, under the same remark, and report the same.
-/

namespace ElementProps

/-- what a survey tells of one offset -/
structure Glimpse where
  /-- how many completions are offered -/
  count : Nat
  /-- the remark beside the first of them -/
  detail : Option String
  /-- the first report -/
  message : Option String
  deriving DecidableEq, Repr

def Finding.glimpse (f : Finding) : Glimpse where
  count := f.completions.length
  detail := f.completions.head?.map Completion.detail
  message := f.log.head?.map Log.Record.message

/-- the numbered entries of a list that differ from the entry before them -/
def changes {α : Type} [DecidableEq α] (k : Nat) (previous : Option α) : List α → List (Nat × α)
  | [] => []
  | a :: rest =>
    if previous = some a then changes (k + 1) previous rest
    else (k, a) :: changes (k + 1) (some a) rest

namespace Completer

/-- the offsets of a text at which the answer changes, each with the answer from there on -/
def survey (k : Completer) (user : Option PropertyMap) (t : Text) : List (Nat × Glimpse) :=
  changes 0 none ((List.range (t.length + 1)).map fun o : Nat => (k.find user t o).glimpse)

end Completer

end ElementProps
