import Killswitch.Proofs.Lock.Check
import Killswitch.Proofs.Source.Extraction
import Killswitch.Proofs.Text.Utf8
import Killswitch.Proofs.Text.Words

/-!
# Lines do not influence each other

A file is read in four steps: its bytes are decoded, its line breaks are unified, it is cut into lines, and
each line is searched for a host. A break between two parts of a file keeps the parts apart in all of them. The
byte of the break continues no character of the first part, whatever that part ends with. Where the break and
the characters next to it come to one break instead of two, what is missing is an empty line, and an empty line
names no host.

**Results.**
* `ofBytes_eq_pieces`: the hosts of a file are those of its pieces between breaks;
* `ofBytes_append_break`: the hosts of a file with a break in it;
* `ofFile_of_read`: the outcome for a file whose bytes are known;
* `files_joined`: the hosts of a file that is made of two.
-/

namespace Killswitch
namespace Endpoint

open Killswitch.Action
open Text (isLineBreak)

/-- What stands between two lines: a line feed, a carriage return, or a carriage return and a line feed. -/
inductive Separates : List UInt8 → Prop
  | feed : Separates [0x0a]
  | carriage : Separates [0x0d]
  | both : Separates [0x0d, 0x0a]

section Bytes

variable {b : UInt8}

theorem ofLine?_nil :
    (ofLine? []).map String.ofList = none := by
  rfl

/-- The hosts of a file are those of its pieces between breaks. -/
theorem ofBytes_eq_pieces (bytes : List UInt8) :
    ofBytes bytes
      = (Text.pieces isLineBreak (Text.Utf8.decodeLossy bytes)).filterMap
          (fun line => (ofLine? line).map String.ofList) := by
  rw [ofBytes, Text.lines_unifyBreaks, Text.filterMap_lines ofLine?_nil]

theorem ofBytes_nil :
    ofBytes [] = [] := by
  rfl

/-- The hosts in front of a break, and those behind it, are what the file names. -/
theorem ofBytes_append_break
    (hwhole : b < 0x80) (hbreak : isLineBreak (Char.ofNat b.toNat) = true)
    (first second : List UInt8) :
    ofBytes (first ++ b :: second) = ofBytes first ++ ofBytes second := by
  rw [ofBytes_eq_pieces, Text.Utf8.decodeLossy_append_whole hwhole,
    Text.pieces_append_separator _ _ hbreak, List.filterMap_append, ← ofBytes_eq_pieces, ← ofBytes_eq_pieces]

theorem ofBytes_append_separator
    {separator : List UInt8} (hseparator : Separates separator) (first second : List UInt8) :
    ofBytes (first ++ separator ++ second) = ofBytes first ++ ofBytes second := by
  have hfeed : ∀ s t, ofBytes (s ++ 0x0a :: t) = ofBytes s ++ ofBytes t := fun s t =>
    ofBytes_append_break (by decide) (by decide) s t
  have hcarriage : ∀ s t, ofBytes (s ++ 0x0d :: t) = ofBytes s ++ ofBytes t := fun s t =>
    ofBytes_append_break (by decide) (by decide) s t
  rw [List.append_assoc]
  cases hseparator with
  | feed =>
      exact hfeed first second
  | carriage =>
      exact hcarriage first second
  | both =>
      calc
        ofBytes (first ++ 0x0d :: ([] ++ 0x0a :: second))
            = ofBytes first ++ ofBytes ([] ++ 0x0a :: second) := hcarriage first _
        _ = ofBytes first ++ (ofBytes [] ++ ofBytes second) := congrArg _ (hfeed [] second)
        _ = ofBytes first ++ ofBytes second := by rw [ofBytes_nil, List.nil_append]

end Bytes

/-- The outcome for a file whose bytes are known. -/
theorem ofFile_of_read
    {m : Machine} {path : Path} {bytes : List UInt8}
    (hread : m.host.read path = .ok bytes) :
    (ofFile path m).1 = .ok (ofBytes bytes) := by
  rw [(ofFile_consults path).run m, answer_ofFile, hostsOfFile, hread]

/-- Of a file that is made of two with a separator between them the hosts are read that are read of the first
one, and then those that are read of the second one. -/
theorem files_joined
    {separator : List UInt8} (hseparator : Separates separator) (first second : List UInt8)
    (m m₁ m₂ : Machine) {path path₁ path₂ : Path}
    (hread : m.host.read path = .ok (first ++ separator ++ second))
    (hfirst : m₁.host.read path₁ = .ok first)
    (hsecond : m₂.host.read path₂ = .ok second) :
    ∃ hosts₁ hosts₂, (ofFile path₁ m₁).1 = .ok hosts₁
      ∧ (ofFile path₂ m₂).1 = .ok hosts₂
      ∧ (ofFile path m).1 = .ok (hosts₁ ++ hosts₂) := by
  refine ⟨ofBytes first, ofBytes second, ofFile_of_read hfirst, ofFile_of_read hsecond, ?_⟩
  rw [ofFile_of_read hread, ofBytes_append_separator hseparator]

/-- A file whose last character is cut off, and whose last byte is a carriage return. -/
def brokenPart : List UInt8 :=
  "remote vpn.example ".toList.map (·.toNat.toUInt8) ++ [0xe2, 0x82, 0x0d]

/-- A file that starts with a line feed and the rest of a character. -/
def restPart : List UInt8 :=
  [0x0a, 0xac, 0x0a] ++ "remote 192.0.2.1".toList.map (·.toNat.toUInt8)

/-- A host with both files, and with the one that is made of them. -/
def partsHost : Host :=
  { Lock.obligingHost with
    files := ⟨[(["vpn", "first"], .file brokenPart none), (["vpn", "second"], .file restPart none),
      (["vpn", "whole"], .file (brokenPart ++ [0x0d] ++ restPart) none)]⟩ }

theorem partsHost_joined :
    Separates [0x0d]
      ∧ partsHost.read (.ofString "/vpn/whole") = .ok (brokenPart ++ [0x0d] ++ restPart)
      ∧ partsHost.read (.ofString "/vpn/first") = .ok brokenPart
      ∧ partsHost.read (.ofString "/vpn/second") = .ok restPart
      ∧ (ofFile (.ofString "/vpn/whole") (.ofHost partsHost)).1 = .ok ["vpn.example", "192.0.2.1"] := by
  have hwhole : partsHost.read (.ofString "/vpn/whole") = .ok (brokenPart ++ [0x0d] ++ restPart) := rfl
  have hfirst : partsHost.read (.ofString "/vpn/first") = .ok brokenPart := rfl
  have hsecond : partsHost.read (.ofString "/vpn/second") = .ok restPart := rfl
  obtain ⟨hosts₁, hosts₂, hhosts₁, hhosts₂, hjoined⟩ :=
    files_joined .carriage brokenPart restPart (.ofHost partsHost) (.ofHost partsHost) (.ofHost partsHost)
      hwhole hfirst hsecond
  refine ⟨.carriage, hwhole, hfirst, hsecond, ?_⟩
  rw [ofFile_of_read hfirst] at hhosts₁
  rw [ofFile_of_read hsecond] at hhosts₂
  obtain rfl := Except.ok.inj hhosts₁
  obtain rfl := Except.ok.inj hhosts₂
  rw [hjoined]
  exact congrArg Except.ok (by decide +kernel)

end Endpoint
end Killswitch
