/-!
# Property names per class

* `PropertyMap`           the property names of element classes, in the order of suggestion;
* `PropertyMap.builtin`   the classes that are known without any settings;
* `PropertyMap.offered`   the names offered for a class: the user's, if there are any, else the
                          built-in ones.
-/

namespace ElementProps

/-- property names per class; classes and names keep their order -/
abbrev PropertyMap := List (String × List String)

namespace PropertyMap

/-- the names of a class, `none` for a class that does not occur -/
def get? (m : PropertyMap) (className : String) : Option (List String) := m.lookup className

theorem get?_nil (className : String) : get? [] className = none := rfl

def classes (m : PropertyMap) : List String := m.map Prod.fst

/-- the names shared by all visible elements -/
def guiObject : List String :=
  ["BackgroundColor3", "BackgroundTransparency", "BorderSizePixel", "BorderColor3", "Size",
   "Position", "AnchorPoint", "Visible", "ZIndex", "LayoutOrder"]

def builtin : PropertyMap :=
  [("TextLabel",
      ["Text", "TextColor3", "TextTransparency", "TextStrokeColor3", "TextStrokeTransparency",
       "Font", "TextSize", "RichText", "TextWrapped", "TextXAlignment", "TextYAlignment"]
        ++ guiObject),
   ("Frame", guiObject ++ ["AutomaticSize"]),
   ("ImageLabel",
      ["Image", "ImageColor3", "ImageTransparency", "ScaleType", "SliceCenter"] ++ guiObject)]

/-- The names offered for a class. The user's list is used when it has names; otherwise the
built-in list is, which may itself be empty. -/
def offered (builtin : PropertyMap) (user : Option PropertyMap) (className : String) :
    Option (List String) :=
  match user.bind (·.get? className) with
  | some (p :: ps) => some (p :: ps)
  | _ => builtin.get? className

end PropertyMap

end ElementProps
