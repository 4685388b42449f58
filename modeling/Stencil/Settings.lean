import Stencil.Text.Casing

/-!
# Settings

What one run of the generator shares among all classes and templates.
-/

namespace Stencil

structure Settings where
  filePrefix : String
  /-- The number of spaces written for a tab; zero keeps tabs. -/
  indent : Nat
  exclude : List String
  camelCase : Bool
  deriving DecidableEq, Repr

namespace Settings

def default : Settings := ⟨"", 2, [], true⟩

instance : Inhabited Settings := ⟨default⟩

def maxIndent : Nat := 16

inductive Fault where
  | indent (found : Nat)
  | separator (filePrefix : String)
  deriving DecidableEq, Repr

def Fault.message : Fault → String
  | .indent found => s!"indent must be at most {maxIndent}, got {found}"
  | .separator found => s!"prefix `{found}` must not contain path separators"

def isSeparator (c : Char) : Bool :=
  c == '/' || c == '\\'

def validate (settings : Settings) : Except Fault Unit :=
  if maxIndent < settings.indent then
    .error (.indent settings.indent)
  else if settings.filePrefix.toList.any isSeparator then
    .error (.separator settings.filePrefix)
  else
    .ok ()

def isExcluded (settings : Settings) (className : String) : Bool :=
  settings.exclude.contains className

def exposedName (settings : Settings) (name : String) : String :=
  if settings.camelCase then String.ofList (Text.joinUnderscored name.toList) else name

theorem validate_eq_ok_iff (settings : Settings) :
    settings.validate = .ok () ↔
      settings.indent ≤ maxIndent ∧ ∀ c ∈ settings.filePrefix.toList, isSeparator c = false := by
  unfold validate
  split
  · simp; omega
  · split
    · simp_all
    · simp_all

end Settings

end Stencil
