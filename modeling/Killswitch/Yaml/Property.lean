import Killswitch.Text.Utf8
import Killswitch.Yaml.Scalar
import Killswitch.Yaml.Token

/-!
# Names, tags and directives

The parts of a document that are written as words: the names of anchors, the tags of nodes and the
directives in front of a document. Each reader starts at the mark of its part and gives the position
after it.
-/

namespace Killswitch
namespace Yaml
namespace Property

def name (c : Cursor) : Except Fault (String × Cursor) :=
  match c.span isNameChar with
  | ([], _) => .error .malformed
  | (word, after) => .ok (String.ofList word, after)

/-- The name behind the mark of an anchor or a reference. -/
def anchorName (c : Cursor) : Except Fault (String × Cursor) := do
  let (word, after) ← name c.next
  if endsIndicator after.head || ['?', ':', ',', ']', '}', '%', '@', '\x60'].contains after.head then
    return (word, after)
  else .error .malformed

/-! ## Tags -/

/-- Whether a character may stand in the address of a tag. -/
def isTagChar (c : Char) : Bool :=
  c.isAlphanum || "-;/?:@&=+$,_.!~*'()[]%".toList.contains c

/-- The bytes of the longest run of percent escapes. -/
def percentBytes : (fuel : Nat) → Cursor → Except Fault (List UInt8 × Cursor)
  | 0, c => .ok ([], c)
  | fuel + 1, c =>
      if c.head == '%' then
        match Text.hexValue? (c.peek 1), Text.hexValue? (c.peek 2) with
        | some high, some low => do
            let (more, after) ← percentBytes fuel (c.advance 3)
            return (UInt8.ofNat (16 * high + low) :: more, after)
        | _, _ => .error .malformed
      else .ok ([], c)

def tagAddressParts : (fuel : Nat) → Cursor → Except Fault (Scalar.Part Char)
  | 0, c => .ok ⟨[], c⟩
  | fuel + 1, c =>
      if c.head == '%' then do
        let (bytes, after) ← percentBytes c.rest.length c
        match Text.Utf8.decode? bytes with
        | .error _ => .error .malformed
        | .ok text => do
            let more ← tagAddressParts fuel after
            return ⟨text ++ more.text, more.after⟩
      else
        match c.span (fun x => isTagChar x && x != '%') with
        | ([], _) => .ok ⟨[], c⟩
        | (run, after) => do
            let more ← tagAddressParts fuel after
            return ⟨run ++ more.text, more.after⟩

/-- The address of a tag, which must not be empty. -/
def tagAddress (c : Cursor) : Except Fault (String × Cursor) :=
  if isTagChar c.head then do
    let part ← tagAddressParts (c.rest.length + 1) c
    return (String.ofList part.text, part.after)
  else .error .malformed

/-- The handle of a tag: a mark, or a name between marks. -/
def tagHandle (c : Cursor) : Except Fault (String × Cursor) :=
  if c.head ≠ '!' then .error .malformed
  else if c.peek 1 == ' ' then .ok ("!", c.next)
  else
    let (word, after) := c.next.span isNameChar
    if after.head == '!' then .ok (String.ofList ('!' :: word ++ ['!']), after.next)
    else .error .malformed

/-- Whether a second mark follows in the same word. -/
def hasHandle (c : Cursor) : Bool :=
  (c.next.rest.takeWhile (fun x => !endsWord x)).contains '!'

/-- A tag, from its mark on. -/
def tag (c : Cursor) : Except Fault (TagText × Cursor) := do
  let following := c.peek 1
  let (text, after) ←
    if following == '<' then do
      let (address, after) ← tagAddress (c.advance 2)
      if after.head == '>' then pure (TagText.mk none address, after.next) else throw .malformed
    else if endsIndicator following then pure (TagText.mk none "!", c.next)
    else do
      let (handle, after) ← if hasHandle c then tagHandle c else pure ("!", c.next)
      let (address, after) ← tagAddress after
      pure (TagText.mk (some handle) address, after)
  if endsWord after.head then return (text, after) else throw .malformed

/-! ## Directives -/

/-- A decimal number, which must not be too long. -/
def number (c : Cursor) : Except Fault (Int × Cursor) :=
  match c.span Char.isDigit with
  | ([], _) => .error .malformed
  | (digits, after) =>
      match Decimal.readInteger 10 digits with
      | .ok n => .ok (n, after)
      | .error f => .error (.integer (Letter.ofChars digits) f)

/-- The version of the grammar. -/
def version (c : Cursor) : Except Fault (Directive × Cursor) := do
  let (major, after) ← number (c.skip (· == ' '))
  if after.head ≠ '.' then throw .malformed
  let (minor, after) ← number after.next
  if endsWord after.head then return (.version major minor, after) else throw .malformed

/-- A handle for tags and what it stands for. -/
def handle (c : Cursor) : Except Fault (Directive × Cursor) := do
  let (name, after) ← tagHandle (c.skip (· == ' '))
  if after.head ≠ ' ' then throw .malformed
  let (expansion, after) ← tagAddress (after.skip (· == ' '))
  if endsWord after.head then return (.handle name expansion, after) else throw .malformed

/-- A directive with its line; unknown ones are passed over. -/
def directive (c : Cursor) : Except Fault (Directive × Cursor) := do
  let (word, after) ← name c.next
  if !endsWord after.head then throw .malformed
  let (d, after) ←
    if word = "YAML" then version after
    else if word = "TAG" then handle after
    else pure (Directive.other, after.skip (fun x => !endsLine x))
  return (d, ← Scalar.restOfLine after)

end Property
end Yaml
end Killswitch
