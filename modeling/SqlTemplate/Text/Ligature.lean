import SqlTemplate.Text.CharWidth
import SqlTemplate.Text.Emoji

/-! Letters that are written together with the letters before them, in fewer columns. -/

namespace SqlTemplate.Text

def alefCodePoints : CodePoints := ⟨[
  1570, 1572, 1573, 1574, 1575, 1576, 1649, 1652, 1653, 1654, 1907, 1909, 2160, 2179]⟩

def lamCodePoints : CodePoints := ⟨[
  1604, 1605, 1717, 1721, 1898, 1899, 2214, 2215, 2247, 2248]⟩

def subscriptCodePoints : CodePoints := ⟨[
  6016, 6019, 6020, 6024, 6025, 6029, 6030, 6036, 6037, 6041, 6043, 6046, 6048, 6049, 6050, 6051,
  6055, 6056, 6059, 6061, 6063, 6064]⟩

/-- The marks of no width that a ligature passes over. -/
def passedCodePoints : CodePoints := ⟨[
  847, 848, 6068, 6070, 6155, 6158, 6159, 6160, 8205, 8206, 65024, 65040, 917760, 918000]⟩

/-- The code points of no width that letters of the Arabic script do not join across. -/
def separatingCodePoints : CodePoints := ⟨[
  1541, 1542, 2192, 2194, 2274, 2275, 2494, 2495, 2519, 2520, 2878, 2879, 2903, 2904, 3006, 3007,
  3031, 3032, 3264, 3265, 3266, 3267, 3271, 3273, 3274, 3276, 3285, 3287, 3390, 3391, 3406, 3407,
  3415, 3416, 3535, 3536, 3551, 3552, 4448, 4608, 5909, 5910, 5940, 5941, 6158, 6159, 6965, 6966,
  6971, 6972, 6973, 6974, 6979, 6981, 7082, 7083, 7154, 7156, 8204, 8206, 8293, 8298, 12334, 12336,
  12644, 12645, 43258, 43259, 43347, 43348, 43456, 43457, 55216, 55239, 55243, 55292, 65440, 65441,
  65520, 65529, 70080, 70081, 70082, 70084, 70197, 70198, 70462, 70463, 70477, 70478, 70487, 70488,
  70584, 70585, 70594, 70595, 70597, 70598, 70599, 70602, 70607, 70608, 70609, 70610, 70832, 70833,
  70845, 70846, 71087, 71088, 71350, 71351, 71984, 71985, 71997, 71998, 71999, 72000, 72001, 72002,
  72324, 72330, 73030, 73031, 73474, 73475, 73537, 73538, 94192, 94194, 119141, 119143, 119149,
  119155, 917504, 917505, 917506, 917536, 917632, 917760, 918000, 921600]⟩

def isTifinagh (c : Char) : Bool :=
  (0x2D31 ≤ c.toNat && c.toNat ≤ 0x2D65) || c.toNat == 0x2D6F

def isFirstTone (c : Char) : Bool :=
  0xA4F8 ≤ c.toNat && c.toNat ≤ 0xA4FB

def isSecondTone (c : Char) : Bool :=
  0xA4FC ≤ c.toNat && c.toNat ≤ 0xA4FD

/-- What a ligature ends with: a letter, or a letter with what has joined it so far. A letter is
`joined` if a joiner stands before it. -/
inductive LigatureEnd
  /-- An Arabic alef, which joins a lam. -/
  | alef
  /-- A Hebrew lamed, which joins an alef by a joiner. -/
  | lamed (joined : Bool)
  /-- A Buginese ya, which joins the vowel sign of i by a joiner, and both then join one letter. -/
  | ya (joined : Bool)
  | vowelYa
  /-- A consonant of Tifinagh, which joins another by a joiner or by the sign of its script. -/
  | tifinagh (joined : Bool)
  | tifinaghJoiner
  /-- A tone letter of Lisu that joins a first one. -/
  | secondTone
  /-- An Old Turkic i, which joins one letter by a joiner. -/
  | turkicI (joined : Bool)
  /-- A Khmer letter that stands below the letter before the subscript sign. -/
  | subscript
  /-- Vowel signs of Kirat Rai, which make up other vowel signs. -/
  | kiratE
  | kiratAi
  deriving DecidableEq, Repr

namespace LigatureEnd

def ofChar? (c : Char) : Option LigatureEnd :=
  if alefCodePoints.contains c then some alef
  else if c.toNat = 0x5DC then some (lamed false)
  else if c.toNat = 0x1A10 then some (ya false)
  else if isTifinagh c then some (tifinagh false)
  else if isSecondTone c then some secondTone
  else if c.toNat = 0x10C03 then some (turkicI false)
  else if subscriptCodePoints.contains c then some subscript
  else if c.toNat = 0x16D67 then some kiratE
  else if c.toNat = 0x16D68 then some kiratAi
  else none

/-- Whether joiners and marks before the letter leave the ligature open. -/
def passes : LigatureEnd → Bool
  | alef | kiratE | kiratAi => false
  | _ => true

/-- Whether a request for a form of a character stays open before the letter. -/
def keepsSelectors : LigatureEnd → Bool
  | kiratE | kiratAi => false
  | _ => true

def join : LigatureEnd → LigatureEnd
  | lamed _ => lamed true
  | ya _ => ya true
  | tifinagh _ => tifinagh true
  | turkicI _ => turkicI true
  | letter => letter

/-- The columns that a character adds to a ligature that it belongs to, and the ligature that is
still open. A subscript takes no columns, so its sign takes back those of the letter. -/
def extend? (c : Char) : LigatureEnd → Option (Int × Option LigatureEnd)
  | alef =>
    if lamCodePoints.contains c then some (0, none)
    else if charWidth c = 0 ∧ !separatingCodePoints.contains c then some (0, some alef)
    else none
  | lamed true => if c.toNat = 0x5D0 then some (0, none) else none
  | ya true => if c.toNat = 0x1A17 then some (0, some vowelYa) else none
  | vowelYa => if c.toNat = 0x1A15 then some (0, none) else none
  | tifinagh joined =>
    if c.toNat = 0x2D7F then some (1, some tifinaghJoiner)
    else if joined ∧ isTifinagh c then some (0, none)
    else none
  | tifinaghJoiner => if isTifinagh c then some (-1, none) else none
  | secondTone => if isFirstTone c then some (0, none) else none
  | turkicI true => if c.toNat = 0x10C32 then some (0, none) else none
  | subscript => if c.toNat = 0x17D2 then some (-1, none) else none
  | kiratE =>
    if c.toNat = 0x16D63 ∨ c.toNat = 0x16D69 then some (0, none)
    else if c.toNat = 0x16D67 then some (0, some kiratAi)
    else if c.toNat = 0x16D68 then some (1, some kiratE)
    else none
  | kiratAi => if c.toNat = 0x16D63 then some (0, none) else none
  | lamed false | ya false | turkicI false => none

end LigatureEnd

end SqlTemplate.Text
