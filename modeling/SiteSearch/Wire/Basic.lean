import SiteSearch.Dictionary
import SiteSearch.Json.Typed
import SiteSearch.Json.Value
import SiteSearch.Weights

-- Wire forms shared by several messages: names of the schema, words and dictionaries.
namespace SiteSearch.Wire

open Json

def kind : Reader Kind := Reading.named Kind.ofName?

def field : Reader Field := Reading.named Field.ofKey?

def relation : Reader Relation := Reading.named Relation.ofName?

def ofKind (kind : Kind) : Value := .text kind.name

def ofField (field : Field) : Value := .text field.key

def ofRelation (relation : Relation) : Value := .text relation.name

def ofWord64 (word : UInt64) : Value := .number word.toNat

def ofWord32 (word : UInt32) : Value := .number word.toNat

-- A dictionary as an object; a later member of the same key wins.
def dictionary {α : Type} (read : Reader α) : Reader (Dictionary α) :=
  Reading.foldMembers .empty fun found key value => do
    pure (found.insert key (← read value))

def ofDictionary {α : Type} (write : α → Value) (dictionary : Dictionary α) : Value :=
  .object (dictionary.entries.map fun entry => (entry.1, write entry.2))

def known {α : Type} (ofName? : String → Option α) (name : String) : Except Fault α :=
  match ofName? name with
  | some value => .ok value
  | none => .error .mismatched

def fieldWeights : Reader FieldWeights :=
  Reading.foldMembers .empty fun weights key value => do
    let field ← known Field.ofKey? key
    pure (weights.insert field (← Reading.word32 value))

def ofFieldWeights (weights : FieldWeights) : Value :=
  .object (weights.entries.map fun entry => (entry.1.key, ofWord32 entry.2))

end SiteSearch.Wire
