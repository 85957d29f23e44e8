import PackageSearch.Host.Fault

/-!
Files as far as they are read: what reading a path gives, or none if nothing is there.
-/

namespace PackageSearch.Host

abbrev Files := String → Option (Except Fault (List UInt8))

def joinPath (base relative : String) : String :=
  if base.isEmpty || base.toList.getLast? == some '/' then base ++ relative
  else base ++ "/" ++ relative

end PackageSearch.Host
