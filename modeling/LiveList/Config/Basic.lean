import LiveList.Config.Document

/-!
The configuration of a server. What a document leaves out keeps its default; what it gives has to
be known, of the right kind, and within its bounds.
-/

namespace LiveList

structure ServerConfig where
  bindAddress : String := "127.0.0.1"
  port : Nat := 5600
  /-- Milliseconds between two flushes of a view. -/
  viewInterval : Nat := 200
  /-- Milliseconds between two flushes of a view on search results. -/
  searchViewInterval : Nat := 500
  /-- The length in bytes that a line of a client may have. -/
  maxLineLength : Nat := 1024 * 1024
  /-- The number of lines that may wait for a client that does not read. -/
  maxPendingLines : Nat := 1024
  deriving DecidableEq, Repr

inductive ConfigError where
  /-- There is no document to read. -/
  | unreadable
  | malformed
  | invalidValue (field message : String)
  deriving DecidableEq, Repr

namespace ConfigError

def message : ConfigError → String
  | unreadable => "failed to read the configuration"
  | malformed => "invalid configuration"
  | invalidValue field message => "invalid value for '" ++ field ++ "': " ++ message

end ConfigError

namespace ServerConfig

def number? (value : SettingValue) (limit : Option Nat) : Option Nat :=
  match value with
  | .whole value =>
      if value < 0 ∨ limit.any (fun limit => limit ≤ value.toNat) then none else some value.toNat
  | .text _ => none

def set? (config : ServerConfig) (name : String) (value : SettingValue) : Option ServerConfig :=
  match name with
  | "bind_address" =>
      match value with
      | .text bindAddress => some { config with bindAddress }
      | .whole _ => none
  | "port" => (number? value (some UInt16.size)).map fun port => { config with port }
  | "view_update_interval" =>
      (number? value none).map fun viewInterval => { config with viewInterval }
  | "search_view_update_interval" =>
      (number? value none).map fun searchViewInterval => { config with searchViewInterval }
  | "max_line_length" => (number? value none).map fun maxLineLength => { config with maxLineLength }
  | "max_pending_lines" =>
      (number? value none).map fun maxPendingLines => { config with maxPendingLines }
  | _ => none

def positiveFields (config : ServerConfig) : List (String × Nat) := [
  ("view_update_interval", config.viewInterval),
  ("search_view_update_interval", config.searchViewInterval),
  ("max_line_length", config.maxLineLength),
  ("max_pending_lines", config.maxPendingLines)]

def validate (config : ServerConfig) : Except ConfigError ServerConfig :=
  match config.positiveFields.find? fun field => field.2 == 0 with
  | some field => .error (.invalidValue field.1 "must be positive")
  | none => .ok config

def ofSettings? (settings : List (String × SettingValue)) : Option ServerConfig :=
  settings.foldlM (fun (config : ServerConfig) setting => config.set? setting.1 setting.2) {}

def read (text : List Char) : Except ConfigError ServerConfig :=
  match (Document.read? text).bind ofSettings? with
  | some config => config.validate
  | none => .error .malformed

def load (contents : Option String) : Except ConfigError ServerConfig :=
  match contents with
  | some text => read text.toList
  | none => .error .unreadable

def address (config : ServerConfig) : String :=
  config.bindAddress ++ ":" ++ toString config.port

theorem validate_eq_ok_iff (config : ServerConfig) :
    config.validate = .ok config ↔ 0 < config.viewInterval ∧ 0 < config.searchViewInterval ∧
      0 < config.maxLineLength ∧ 0 < config.maxPendingLines := by
  have positive : (config.positiveFields.find? fun field => field.2 == 0) = none ↔
      0 < config.viewInterval ∧ 0 < config.searchViewInterval ∧
        0 < config.maxLineLength ∧ 0 < config.maxPendingLines := by
    simp [positiveFields, List.find?_eq_none, Nat.pos_iff_ne_zero]
  rw [← positive, validate]
  cases config.positiveFields.find? fun field => field.2 == 0 with
  | some field => exact ⟨nofun, nofun⟩
  | none => exact ⟨fun _ => rfl, fun _ => rfl⟩

end ServerConfig

end LiveList
