import SiteSearch.Config.Basic
import SiteSearch.Toml.Document

-- The configuration in a TOML text.
namespace SiteSearch

namespace Toml

-- A section by its member names: a table of known keys, or an array of the members in order.
def Item.section? (names : List String) : Item → Option (String → Option Item)
  | .table entries _ =>
    if entries.all fun entry => names.contains entry.1 then some fun name => entries.lookup name else none
  | .array items _ => some fun name => items[names.idxOf name]?
  | _ => none

def Item.text? : Item → Option String
  | .text value => some value
  | _ => none

def Item.natural? (bound : Nat) : Item → Option Nat
  | .integer value => if 0 ≤ value ∧ value < bound then some value.toNat else none
  | _ => none

def Item.list? {α : Type} (read : Item → Option α) : Item → Option (List α)
  | .array items _ => items.mapM read
  | _ => none

def Item.weights? : Item → Option (Dictionary Weight)
  | .table entries _ => do
    let named ← entries.mapM fun entry => do
      some (entry.1, UInt32.ofNat (← entry.2.natural? UInt32.size))
    some (.ofList named)
  | _ => none

def orElse {α : Type} (found : Option Item) (fallback : α) (read : Item → Option α) : Option α :=
  match found with
  | none => some fallback
  | some item => read item

def optional {α : Type} (found : Option Item) (read : Item → Option α) : Option (Option α) :=
  orElse found none fun item => (read item).map some

end Toml

open Toml

def ServerConfig.ofItem? (item : Item) : Option ServerConfig := do
  let found ← item.section? ["host", "port", "rate_limit", "cors_origins"]
  let fallback : ServerConfig := {}
  some {
    host := ← orElse (found "host") fallback.host Item.text?
    port := ← orElse (found "port") fallback.port fun item =>
      (item.natural? UInt16.size).map UInt16.ofNat
    rateLimit := ← orElse (found "rate_limit") fallback.rateLimit fun item =>
      (item.natural? UInt32.size).map UInt32.ofNat
    corsOrigins := ← optional (found "cors_origins") (Item.list? Item.text?) }

def SearchConfig.ofItem? (item : Item) : Option SearchConfig := do
  let found ← item.section? ["data", "top_k", "max_top_k"]
  let fallback : SearchConfig := {}
  some {
    data := ← orElse (found "data") fallback.data Item.text?
    topK := ← orElse (found "top_k") fallback.topK (Item.natural? UInt64.size)
    maxTopK := ← orElse (found "max_top_k") fallback.maxTopK (Item.natural? UInt64.size) }

def RuleConfig.ofItem? (item : Item) : Option RuleConfig := do
  let found ← item.section? ["foreign_key", "weights"]
  some {
    foreignKey := ← optional (found "foreign_key") Item.text?
    weights := ← orElse (found "weights") .empty Item.weights? }

def rulesOfItem? (item : Item) : Option (Relation → Option RuleConfig) := do
  let found ← item.section? ["building_lock", "group_medium"]
  let buildingLock ← optional (found "building_lock") RuleConfig.ofItem?
  let groupMedium ← optional (found "group_medium") RuleConfig.ofItem?
  some fun
    | .buildingLock => buildingLock
    | .groupMedium => groupMedium

def WeightsConfig.ofItem? (item : Item) : Option WeightsConfig := do
  let found ← item.section? ["building", "lock", "group", "medium", "transitive"]
  let building ← optional (found "building") Item.weights?
  let lock ← optional (found "lock") Item.weights?
  let group ← optional (found "group") Item.weights?
  let medium ← optional (found "medium") Item.weights?
  let rules ← orElse (found "transitive") (fun _ => none) rulesOfItem?
  some {
    direct := fun
      | .building => building
      | .lock => lock
      | .group => group
      | .medium => medium
    rules }

def Config.ofItem? (item : Item) : Option Config := do
  let found ← item.section? ["server", "search", "weights"]
  some {
    server := ← orElse (found "server") {} ServerConfig.ofItem?
    search := ← orElse (found "search") {} SearchConfig.ofItem?
    weights := ← orElse (found "weights") {} WeightsConfig.ofItem? }

def Config.ofText (text : String) : Except SearchError Config :=
  match (Toml.parse? text).bind Config.ofItem? with
  | some config => .ok config
  | none => .error (.unreadable .malformedConfig)

end SiteSearch
