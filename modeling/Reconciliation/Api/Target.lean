/-! # Targets of requests

A request goes to a target: a path, and a query behind the first question mark. A target is described by a
text, its address, in which a number sign ends the target. Some characters cannot stand in a target, and
an address cannot be of any length; otherwise a request cannot be sent.
-/

namespace Reconciliation.Api

structure Target where
  path : String
  query : String
deriving DecidableEq, Repr

namespace Target

/-- Whether a character can stand in a path: no space, no ASCII control, none that ends the path, and
neither an angle bracket nor a grave accent. -/
def isPathChar (char : Char) : Bool := decide (' ' < char ∧ char ∉ ['?', '#', '<', '>', '\x60', '\x7f'])

/-- Whether a character can stand in a query: no space, no ASCII control, no number sign, and neither an
angle bracket nor a double quote. -/
def isQueryChar (char : Char) : Bool := decide (' ' < char ∧ char ∉ ['#', '<', '>', '"', '\x7f'])

def isValid (target : Target) : Bool :=
  target.path.toList.all isPathChar && target.query.toList.all isQueryChar

/-- The target that an address describes. Ampersands in front of its query separate nothing and are left
out. -/
def ofString (address : String) : Target :=
  let sent := address.toList.takeWhile (· != '#')
  { path := String.ofList (sent.takeWhile (· != '?'))
    query := String.ofList (((sent.dropWhile (· != '?')).drop 1).dropWhile (· == '&')) }

/-- Why a request to an address cannot be sent. -/
inductive Problem
  | tooLong
  | invalidCharacter
deriving DecidableEq, Repr

def Problem.text : Problem → String
  | tooLong => "uri too long"
  | invalidCharacter => "invalid uri character"

/-- How many bytes an address can have, with what follows the number sign. -/
def maxLength : Nat := 65534

/-- Why a request to the target that an address describes cannot be sent, if it cannot. -/
def problem? (address : String) : Option Problem :=
  if maxLength < address.utf8ByteSize then some .tooLong
  else if (ofString address).isValid then none
  else some .invalidCharacter

theorem ne_of_isPathChar {char : Char} (fits : isPathChar char) : char != '?' ∧ char != '#' := by
  constructor <;> (rw [bne_iff_ne]; rintro rfl; revert fits; decide)

theorem ne_of_isQueryChar {char : Char} (fits : isQueryChar char) : char != '#' := by
  rw [bne_iff_ne]
  rintro rfl
  revert fits
  decide

/-- What stands behind the question mark after a path is the query. -/
theorem ofString_path_query {path query : String} (fits : path.toList.all isPathChar)
    (plain : query.toList.all isQueryChar) :
    ofString (path ++ "?" ++ query) = ⟨path, String.ofList (query.toList.dropWhile (· == '&'))⟩ := by
  have allowed := fun char member => ne_of_isPathChar (List.all_eq_true.mp fits char member)
  have whole : ∀ char ∈ path.toList ++ '?' :: query.toList, char != '#' := by
    intro char member
    rcases List.mem_append.mp member with member | member
    · exact (allowed char member).2
    · rcases List.mem_cons.mp member with rfl | member
      · rfl
      · exact ne_of_isQueryChar (List.all_eq_true.mp plain char member)
  have sent : (path.toList ++ '?' :: query.toList).takeWhile (· != '#') =
      path.toList ++ '?' :: query.toList := by
    rw [← List.append_nil (path.toList ++ _), List.takeWhile_append_of_pos whole]
    simp
  have before : (path.toList ++ '?' :: query.toList).takeWhile (· != '?') = path.toList := by
    rw [List.takeWhile_append_of_pos fun char member => (allowed char member).1]
    simp
  have behind : (path.toList ++ '?' :: query.toList).dropWhile (· != '?') = '?' :: query.toList := by
    rw [List.dropWhile_append_of_pos fun char member => (allowed char member).1]
    simp
  have written : (path ++ "?" ++ query).toList = path.toList ++ '?' :: query.toList := by simp
  simp only [ofString, written, sent, before, behind]
  simp

/-- A text that can stand in a path is all path. -/
theorem ofString_path {path : String} (fits : path.toList.all isPathChar) :
    ofString path = ⟨path, ""⟩ := by
  have allowed := fun char member => ne_of_isPathChar (List.all_eq_true.mp fits char member)
  have sent : path.toList.takeWhile (· != '#') = path.toList := by
    rw [← List.append_nil path.toList,
      List.takeWhile_append_of_pos fun char member => (allowed char member).2]
    simp
  have before : path.toList.takeWhile (· != '?') = path.toList := by
    rw [← List.append_nil path.toList,
      List.takeWhile_append_of_pos fun char member => (allowed char member).1]
    simp
  have behind : path.toList.dropWhile (· != '?') = [] := by
    rw [← List.append_nil path.toList,
      List.dropWhile_append_of_pos fun char member => (allowed char member).1]
    simp
  simp [ofString, sent, before, behind]

end Target

end Reconciliation.Api
