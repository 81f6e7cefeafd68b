/-
White space at the ends of a text. A character is blank when it has the Unicode property
White_Space; a text is blank when nothing else is in it.
-/

namespace SignedRest.Text

/-- The property White_Space holds of twenty-five characters. -/
def isBlank (c : Char) : Bool :=
  (9 ≤ c.toNat && c.toNat ≤ 13) || c.toNat == 0x20 || c.toNat == 0x85 || c.toNat == 0xA0 ||
    c.toNat == 0x1680 || (0x2000 ≤ c.toNat && c.toNat ≤ 0x200A) || c.toNat == 0x2028 ||
    c.toNat == 0x2029 || c.toNat == 0x202F || c.toNat == 0x205F || c.toNat == 0x3000

/-- What is left of a list once the items that satisfy the test are taken off both ends. -/
def stripWhere {Item : Type} (drop : Item → Bool) (items : List Item) : List Item :=
  ((items.dropWhile drop).reverse.dropWhile drop).reverse

def trim (text : String) : String :=
  String.ofList (stripWhere isBlank text.toList)

def isBlankText (text : String) : Bool :=
  text.toList.all isBlank

end SignedRest.Text
