import CardText.Decode
import CardText.Unicode.Lowercase
import CardText.Unicode.Word

/-! The set that a card belongs to. -/
namespace CardText

structure CardSet where
  name : String
  ptcgoCode : Option String
  id : Option String
  deriving DecidableEq, Repr

namespace CardSet

/-- The words of the name in small letters, joined by underscores: "Base Set 2" is
`base_set_2`. Sets of one canonical name are one set. -/
def canonicalName (set : CardSet) : String :=
  let words := Text.splitAt (fun c => !Unicode.isAlphanumeric c) set.name.toList
  "_".intercalate ((words.filter (!·.isEmpty)).map fun word =>
    String.ofList (Unicode.lowercase word))

def shortCode (set : CardSet) : String := (set.ptcgoCode.or set.id).getD set.name

def decode : Decoder CardSet :=
  Decode.record "SetInfo"
    [Decode.field "name" Decode.string, Decode.field "ptcgoCode" Decode.optionalString,
      Decode.field "id" Decode.optionalString]
    fun members => do
      let name ← members.required "name" Decode.string
      let ptcgoCode ← members.optional "ptcgoCode" none Decode.optionalString
      let id ← members.optional "id" none Decode.optionalString
      return ⟨name, ptcgoCode, id⟩

end CardSet
end CardText
