import TargetHelp.Text.Decimal

/-!
# Releases

A release number has three parts, each as it is written, and perhaps a phase. It is shown with the
phase behind a hyphen, or as a package version, in which the known phases are pre-release segments.
-/

set_option autoImplicit false
set_option relaxedAutoImplicit false

namespace TargetHelp

structure Release where
  major : Text
  minor : Text
  patch : Text
  phase : Option Text
  deriving DecidableEq, Repr

namespace Release

def numbers (release : Release) : Text :=
  Text.join "." [release.major, release.minor, release.patch]

/-- The phase, if it is not empty. -/
def phase? (release : Release) : Option Text := release.phase.filter fun phase => !phase.isEmpty

/-- The number with the phase behind a hyphen. -/
def text (release : Release) : Text :=
  match release.phase? with
  | none => release.numbers
  | some phase => release.numbers ++ CodePoint.ofChar '-' :: phase

/-- The segment of a package version that a phase becomes. -/
def segment (phase : Text) : Text :=
  if phase = "alpha" then "a0" else if phase = "beta" then "b0" else phase

def packageVersion (release : Release) : Text :=
  match release.phase? with
  | none => release.numbers
  | some phase => release.numbers ++ segment phase

/-- This release. -/
def current : Release := ⟨"0", "1", "0", some "alpha"⟩

/-- The name under which the program is released. -/
def programName : Text := "mmhelp"

end Release

end TargetHelp
