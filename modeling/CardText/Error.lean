import CardText.Decode
import CardText.Disk.OsError

/-! What can stop a run: the disk, a document, or a card that is not what cards are. An
attack that no rule reads is none of these. -/
namespace CardText

inductive DocumentFault where
  | noData
  | notCards
  deriving DecidableEq, Repr

def DocumentFault.message : DocumentFault → String
  | noData => "expected a `data` array"
  | notCards => "expected an object or an array of cards"

inductive CardFault where
  | missingStage (subtypes : List String)
  | missingPredecessor
  | missingHitPoints
  | shape (error : DecodeError)
  deriving DecidableEq, Repr

def quotedList (items : List String) : String :=
  "[" ++ ", ".intercalate (items.map Text.quoted) ++ "]"

def CardFault.message : CardFault → String
  | missingStage subtypes => "no evolution stage among subtypes " ++ quotedList subtypes
  | missingPredecessor => "evolved card without a predecessor name"
  | missingHitPoints => "missing hit points"
  | shape error => error.message

inductive Error where
  | io (path : String) (cause : OsError)
  | json (message : String)
  | document (fault : DocumentFault)
  | malformed (card : String) (fault : CardFault)
  deriving DecidableEq, Repr

def Error.message : Error → String
  | io path cause => "failed to access " ++ path ++ ": " ++ cause.message
  | json message => "dataset is not valid JSON: " ++ message
  | document fault => "unexpected dataset document: " ++ fault.message
  | malformed card fault => "malformed card " ++ card ++ ": " ++ fault.message

end CardText
