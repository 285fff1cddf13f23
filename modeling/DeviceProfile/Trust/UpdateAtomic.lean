import DeviceProfile.Trust.Activation
import DeviceProfile.Trust.QueryPlaces

/-!
# All or nothing in an Update

An Update writes both party tables, the access control table and the trust device table one after
another and without a transaction. What it leaves behind depends on which of its database calls
fails and on what the unique indexes refuse: each write is followed here for itself, and the end
of the call is put together from them.
-/

namespace DeviceProfile

open Library

variable {env : Env}

/-! ## What the indexes refuse -/

namespace Tables

variable (t : Tables) (p : AccessControlProfile)

end Tables

/-! ## The calls of an Update in order -/

section Conditions

variable (p : AccessControlProfile) (w : World)

end Conditions

/-! ## The party updates -/

namespace World

variable (w : World) (role : Role) (p : AccessControlProfile)

end World

section Parties

variable {p : AccessControlProfile} {w : World} {role : Role}

end Parties

/-! ## The locked section -/

section Locked

variable {p : AccessControlProfile} {w w' : World} {row : AccessControlRow}

end Locked

/-! ## The trust device row -/

section Whole

variable {p : AccessControlProfile} {w : World}

variable {row : AccessControlRow} (hfails : w.callFails 0 = false)
  (hrow : row ∈ w.tables.accessControl) (hid : row.accessControlId = p.accessControlId)
  (hnames : p.NamesPartiesOf row)

include hfails hrow hid hnames

end Whole

end DeviceProfile
