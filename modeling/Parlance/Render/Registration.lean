import Parlance.Format.Formatter
import Parlance.Render.Outcome

namespace Parlance.Render

open Parlance.Format

/-! # Registration of formatters

Registering a formatter leaves a record, which tells whether the kind had one before.
-/

/-- Whether a formatter of the kind is registered. -/
def isRegistered (registry : Registry) (kind : String) : Bool :=
  (registry.find? kind).isSome

/-- The registry with a further formatter, and the record of the registration. -/
def register (registry : Registry) (kind : String) (formatter : Formatter) :
    Registry × Record :=
  (registry.register kind formatter, .registered kind (isRegistered registry kind))

end Parlance.Render
