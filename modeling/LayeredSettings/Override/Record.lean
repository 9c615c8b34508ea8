import LayeredSettings.Value.Narrow

namespace LayeredSettings

/-- Compiler and target an editor assumes. -/
inductive IntelliSenseMode where
  | msvcX86
  | msvcX64
  | gccX86
  | gccX64
  | clangX86
  | clangX64
  deriving DecidableEq, Repr

inductive CppStandard where
  | cpp98
  | cpp03
  | cpp11
  | cpp14
  | cpp17
  | cpp20
  deriving DecidableEq, Repr

inductive CStandard where
  | c89
  | c99
  | c11
  deriving DecidableEq, Repr

instance : Choice IntelliSenseMode where
  all := [.msvcX86, .msvcX64, .gccX86, .gccX64, .clangX86, .clangX64]
  text
    | .msvcX86 => "msvc-x86"
    | .msvcX64 => "msvc-x64"
    | .gccX86 => "gcc-x86"
    | .gccX64 => "gcc-x64"
    | .clangX86 => "clang-x86"
    | .clangX64 => "clang-x64"

instance : Choice CppStandard where
  all := [.cpp98, .cpp03, .cpp11, .cpp14, .cpp17, .cpp20]
  text
    | .cpp98 => "c++98"
    | .cpp03 => "c++03"
    | .cpp11 => "c++11"
    | .cpp14 => "c++14"
    | .cpp17 => "c++17"
    | .cpp20 => "c++20"

instance : Choice CStandard where
  all := [.c89, .c99, .c11]
  text
    | .c89 => "c89"
    | .c99 => "c99"
    | .c11 => "c11"

/-- The settings that override what the tooling finds by itself. What is none is not
overridden. -/
structure OverrideRecord where
  intelliSenseMode : Option IntelliSenseMode := none
  cppStandard : Option CppStandard := none
  cStandard : Option CStandard := none
  compilerPath : Option String := none
  filterCompilerArgs : Option String := none
  deriving DecidableEq, Repr, Inhabited

namespace OverrideRecord

/-- The fields under the names they have in settings files. -/
def fields (r : OverrideRecord) : List (String × Option String) :=
  [("intelliSenseMode", r.intelliSenseMode.map Choice.text),
    ("cppStandard", r.cppStandard.map Choice.text),
    ("cStandard", r.cStandard.map Choice.text),
    ("compilerPath", r.compilerPath),
    ("filterCompilerArgs", r.filterCompilerArgs)]

end OverrideRecord

/-- The section of the tool, and in it that of the overrides. -/
def toolSection : String := "CMakeLite"

def overrideSection : String := "CMakeLite.override"

end LayeredSettings
