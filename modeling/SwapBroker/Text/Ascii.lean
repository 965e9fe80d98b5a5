/-!
# ASCII letters and digits

Names of chains, assets and networks are compared without regard to the case of ASCII letters, and
all numbers are written in ASCII digits. Characters outside ASCII have no case here.
-/

namespace SwapBroker.Text

def lower (s : String) : String :=
  String.ofList (s.toList.map Char.toLower)

def sameIgnoringCase (a b : String) : Bool :=
  a.toList.map Char.toLower == b.toList.map Char.toLower

def isDecimalDigit (c : Char) : Bool :=
  '0' ≤ c && c ≤ '9'

def isHexDigit (c : Char) : Bool :=
  isDecimalDigit c || ('a' ≤ c && c ≤ 'f') || ('A' ≤ c && c ≤ 'F')

def digitValue (c : Char) : Nat :=
  if isDecimalDigit c then c.toNat - '0'.toNat
  else if 'a' ≤ c && c ≤ 'f' then c.toNat - 'a'.toNat + 10
  else c.toNat - 'A'.toNat + 10

def isDigitIn (base : Nat) (c : Char) : Bool :=
  isHexDigit c && digitValue c < base

/-- The digit of value `n`, small letters from ten on. Only values below sixteen have one. -/
def digitChar (n : Nat) : Char :=
  Char.ofNat (if n < 10 then '0'.toNat + n else 'a'.toNat + (n - 10))

def dropStart? : (start s : List Char) → Option (List Char)
  | [], s => some s
  | _ :: _, [] => none
  | a :: start, c :: s => if a = c then dropStart? start s else none

def startsWith (start s : String) : Bool :=
  (dropStart? start.toList s.toList).isSome

def cutAt? (c : Char) : List Char → Option (List Char × List Char)
  | [] => none
  | d :: rest =>
    if d = c then some ([], rest)
    else (cutAt? c rest).map fun (before, after) => (d :: before, after)

@[simp] theorem dropStart?_append (start rest : List Char) :
    dropStart? start (start ++ rest) = some rest := by
  induction start with
  | nil => simp [dropStart?]
  | cons a start ih => simp [dropStart?, ih]

theorem eq_append_of_dropStart? {start s rest : List Char} (h : dropStart? start s = some rest) :
    s = start ++ rest := by
  fun_induction dropStart? start s with
  | case1 => simp_all
  | case2 => simp at h
  | case3 a start s ih => simpa using ih h
  | case4 => simp at h

theorem startsWith_iff {start s : String} :
    startsWith start s = true ↔ ∃ rest, s.toList = start.toList ++ rest := by
  unfold startsWith
  rw [Option.isSome_iff_exists]
  constructor
  · rintro ⟨rest, h⟩
    exact ⟨rest, eq_append_of_dropStart? h⟩
  · rintro ⟨rest, h⟩
    exact ⟨rest, by rw [h, dropStart?_append]⟩

theorem cutAt?_append {c : Char} {before after : List Char} (h : c ∉ before) :
    cutAt? c (before ++ c :: after) = some (before, after) := by
  induction before with
  | nil => simp [cutAt?]
  | cons b before ih =>
    obtain ⟨hb, hrest⟩ := not_or.mp (mt List.mem_cons.mpr h)
    rw [List.cons_append, cutAt?, if_neg (Ne.symm hb), ih hrest, Option.map_some]

theorem cutAt?_eq_none {c : Char} {cs : List Char} (h : c ∉ cs) : cutAt? c cs = none := by
  induction cs with
  | nil => rfl
  | cons b rest ih =>
    obtain ⟨hb, hrest⟩ := not_or.mp (mt List.mem_cons.mpr h)
    rw [cutAt?, if_neg (Ne.symm hb), ih hrest, Option.map_none]

theorem eq_append_of_cutAt? {c : Char} {s before after : List Char}
    (h : cutAt? c s = some (before, after)) : s = before ++ c :: after := by
  induction s generalizing before with
  | nil => simp [cutAt?] at h
  | cons d rest ih =>
    unfold cutAt? at h
    split at h
    next hd => cases h; rw [hd]; rfl
    next hd =>
      obtain ⟨⟨b, a⟩, hcut, hpair⟩ := Option.map_eq_some_iff.mp h
      cases hpair
      rw [ih hcut]; rfl

end SwapBroker.Text
