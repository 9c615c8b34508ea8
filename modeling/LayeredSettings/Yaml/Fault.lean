import LayeredSettings.Failure

namespace LayeredSettings

/-- Why a document has no value: it is not well formed, it is nested too deep, or one of
its scalars has no value of the kind it must have. -/
inductive YamlFault where
  | malformed
  | tooDeep
  | scalar (fault : ScalarFault)
  deriving DecidableEq, Repr

end LayeredSettings
