import SandboxNet.Text.Number

/-! # Traffic-control handles

A handle names a queueing discipline, or a class below it, by a major and a minor number of sixteen
bits each. Its notation is both printed into commands and read back from listings.
-/

namespace SandboxNet.Tc

/-- A handle, written `major:minor` in hexadecimal. -/
structure Handle where
  major : UInt16
  minor : UInt16
  deriving DecidableEq, Repr

namespace Handle

/-- The pseudo-parent of a root queueing discipline. -/
def root : Handle := ⟨0xffff, 0xffff⟩

/-- The handle of an ingress queueing discipline. -/
def ingress : Handle := ⟨0xffff, 0⟩

/-- The parent of an ingress queueing discipline. -/
def ingressParent : Handle := ⟨0xffff, 0xfff1⟩

/-- The handle of a queueing discipline that the kernel attached on its own. -/
def unspecified : Handle := ⟨0, 0⟩

/-- The handle in one word, its major number in the upper half. -/
def raw (h : Handle) : UInt32 :=
  h.major.toUInt32 <<< 16 ||| h.minor.toUInt32

/-- The handle in the halves of a word. -/
def ofRaw (word : UInt32) : Handle :=
  ⟨(word >>> 16).toUInt16, word.toUInt16⟩

/-- One half of the notation; an empty half is zero. -/
def half? : List Char → Option UInt16
  | [] => some 0
  | c :: rest => (Text.unsigned? 16 0x10000 (c :: rest)).map UInt16.ofNat

/-- Reads the notation: `root`, or two halves around the first colon. -/
def ofChars? (cs : List Char) : Option Handle :=
  if cs = "root".toList then some root
  else match cs.dropWhile (· ≠ ':') with
    | [] => none
    | _ :: minor => do
        let major ← half? (cs.takeWhile (· ≠ ':'))
        let minor ← half? minor
        return ⟨major, minor⟩

/-- Reads the notation from a string. -/
def ofText? (s : String) : Option Handle :=
  ofChars? s.toList

/-- The notation of a handle; a minor number of zero is left out. -/
def text (h : Handle) : String :=
  if h = root then "root"
  else Text.digits 16 h.major.toNat ++ ":" ++
    if h.minor = 0 then "" else Text.digits 16 h.minor.toNat

end Handle

end SandboxNet.Tc
