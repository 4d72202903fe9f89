import JdkCatalog.Verdict

/-!
# Why something is left out

The reasons for which a product of a feed, or a package of a product, is not
used.
-/

namespace JdkCatalog

/-- Why a product or a package is not used. -/
inductive Rejection where
  | notAnObject
  | missing (name : String)
  | invalid (name : String)
  | unknownType (tag : String)
  | filtered (verdict : Verdict)
  | noPackage
deriving DecidableEq

/-- The wording of a reason. -/
def Rejection.message : Rejection → String
  | notAnObject => "entry is not an object"
  | missing name => "missing field '" ++ name ++ "'"
  | invalid name => "invalid value for field '" ++ name ++ "'"
  | unknownType tag => "unknown package type '" ++ tag ++ "'"
  | filtered verdict => "filter evaluated to " ++ verdict.text
  | noPackage => "no package matches this platform"

end JdkCatalog
