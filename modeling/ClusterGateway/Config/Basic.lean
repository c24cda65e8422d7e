import ClusterGateway.Location.Basic
import ClusterGateway.Toml.Document

/-! # The configuration of a node

A configuration is a TOML document with a section for each part of a node and a list of locations.
Every setting but those of a location has a default, and what a section does not know is passed
over. Times are in milliseconds.
-/

namespace ClusterGateway

/-- Who a node is and where it keeps its snapshots. -/
structure NodeSettings where
  name : String := "concord"
  /-- The directory of the snapshots; without one they stay in memory. -/
  dataDir : Option String := none
deriving DecidableEq, Repr, Inhabited

/-- What a node writes into its log. -/
structure LogSettings where
  /-- The least weight of what is written. -/
  level : String := "info"
  format : String := "pretty"
deriving DecidableEq, Repr, Inhabited

/-- How changes are agreed on. -/
structure ClusterSettings where
  /-- Whether a node that starts without a snapshot proposes its locations. -/
  bootstrap : Bool := true
  /-- How long a change may take to be committed. -/
  proposeTimeout : Nat := 5000
  /-- After how many entries a snapshot is taken. -/
  snapshotThreshold : Nat := 1024
deriving DecidableEq, Repr, Inhabited

/-- How hosts are checked. -/
structure HealthSettings where
  enabled : Bool := true
  /-- The time between two checks of a host. -/
  interval : Nat := 5000
  /-- How long a check may take. -/
  connectTimeout : Nat := 2000
  /-- How long the removal of a host waits for the end of its checks. -/
  hostShutdownTimeout : Nat := 5000
deriving DecidableEq, Repr, Inhabited

/-- How hosts are chosen. -/
structure BalanceSettings where
  /-- How many points a host has on a hash ring. -/
  replicas : Nat := 50
deriving DecidableEq, Repr, Inhabited

/-- The configuration of a node. -/
structure Config where
  node : NodeSettings := {}
  log : LogSettings := {}
  cluster : ClusterSettings := {}
  healthCheck : HealthSettings := {}
  loadBalance : BalanceSettings := {}
  locations : List Location := []
deriving DecidableEq, Repr, Inhabited

open Toml (orDefault)

/-- Reads the section of the node. -/
def NodeSettings.ofToml (v : Toml.Value) : Option NodeSettings := do
  let field ← v.fields?
  return {
    name := ← orDefault (field 0 "name") Toml.Value.text? "concord"
    dataDir := ← orDefault (field 1 "data_dir") (fun v => v.text?.map some) none }

/-- Reads the section of the log. -/
def LogSettings.ofToml (v : Toml.Value) : Option LogSettings := do
  let field ← v.fields?
  return {
    level := ← orDefault (field 0 "level") Toml.Value.text? "info"
    format := ← orDefault (field 1 "format") Toml.Value.text? "pretty" }

/-- Reads the section of the cluster. -/
def ClusterSettings.ofToml (v : Toml.Value) : Option ClusterSettings := do
  let field ← v.fields?
  return {
    bootstrap := ← orDefault (field 0 "bootstrap") Toml.Value.bool? true
    proposeTimeout := ← orDefault (field 1 "propose_timeout_ms") Toml.Value.count? 5000
    snapshotThreshold := ← orDefault (field 2 "snapshot_threshold") Toml.Value.count? 1024 }

/-- Reads the section of the checks. -/
def HealthSettings.ofToml (v : Toml.Value) : Option HealthSettings := do
  let field ← v.fields?
  return {
    enabled := ← orDefault (field 0 "enabled") Toml.Value.bool? true
    interval := ← orDefault (field 1 "interval_ms") Toml.Value.count? 5000
    connectTimeout := ← orDefault (field 2 "connect_timeout_ms") Toml.Value.count? 2000
    hostShutdownTimeout := ← orDefault (field 3 "host_shutdown_timeout_ms") Toml.Value.count? 5000 }

/-- Reads the section of the balancers. -/
def BalanceSettings.ofToml (v : Toml.Value) : Option BalanceSettings := do
  let field ← v.fields?
  return { replicas := ← orDefault (field 0 "replicas") Toml.Value.count? 50 }

/-- Reads a location, which has no defaults. -/
def Location.ofToml (v : Toml.Value) : Option Location := do
  let field ← v.fields?
  return {
    pattern := ← (← field 0 "pattern").text?
    proxyPass := ← (← (← field 1 "proxy_pass").items?).mapM Toml.Value.text?
    balanceMode := ← (← field 2 "balance_mode").text? }

namespace Config

def ofToml (document : Toml.Value) : Option Config := do
  let field ← document.fields?
  return {
    node := ← orDefault (field 0 "node") NodeSettings.ofToml {}
    log := ← orDefault (field 1 "log") LogSettings.ofToml {}
    cluster := ← orDefault (field 2 "cluster") ClusterSettings.ofToml {}
    healthCheck := ← orDefault (field 3 "health_check") HealthSettings.ofToml {}
    loadBalance := ← orDefault (field 4 "load_balance") BalanceSettings.ofToml {}
    locations := ← orDefault (field 5 "location")
      (fun v => v.items?.bind fun items => items.mapM Location.ofToml) [] }

/-- Reads a configuration from the text of a document. -/
def parse (text : String) : Option Config := (Toml.parse text).bind ofToml

end Config

end ClusterGateway
