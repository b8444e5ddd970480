import HostAgent.Json.Decode
import HostAgent.Snapshot.Basic

set_option autoImplicit false

/-! # Snapshots from JSON

The records that make up a published snapshot, none of whose fields is required, and the
readers for the whole text and for the bytes of one.
-/

namespace HostAgent

open Json (Record Field)

/-- The record of a network interface. -/
def Interface.record [Json.StrayBytes] : Record Interface where
  name := "struct NetworkInterface"
  blank := {}
  fields := [
    .stored "mac" false Json.text fun r v => { r with mac := v },
    .stored "forwardedIps" false (Json.list Json.text) fun r v => { r with forwardedIps := v },
    .stored "targetInstanceIps" false (Json.list Json.text) fun r v =>
      { r with targetInstanceIps := v },
    .stored "ipAliases" false (Json.list Json.text) fun r v => { r with ipAliases := v }]

/-- The record of the machine. -/
def Machine.record [Json.StrayBytes] : Record Machine where
  name := "struct InstanceMetadata"
  blank := {}
  fields := [
    .stored "id" false Json.word64 fun r v => { r with id := v },
    .stored "hostname" false Json.text fun r v => { r with hostname := v },
    .stored "attributes" false (Json.dict Json.text) fun r v => { r with attributes := v },
    .stored "networkInterfaces" false (Json.list Interface.record.read) fun r v =>
      { r with interfaces := v }]

/-- The record of the project. -/
def Project.record [Json.StrayBytes] : Record Project where
  name := "struct ProjectMetadata"
  blank := {}
  fields := [
    .stored "projectId" false Json.text fun r v => { r with projectId := v },
    .stored "attributes" false (Json.dict Json.text) fun r v => { r with attributes := v }]

/-- The record of a snapshot. -/
def Snapshot.record [Json.StrayBytes] : Record Snapshot where
  name := "struct Snapshot"
  blank := {}
  fields := [
    .stored "instance" false Machine.record.read fun r v => { r with machine := v },
    .stored "project" false Project.record.read fun r v => { r with project := v }]

/-- The snapshot that a text holds. -/
def Snapshot.decode (s : String) : Except Json.Fault Snapshot :=
  Json.decode Snapshot.record.read s.toList

/-- The snapshot that a text holds, or the wording of the fault. -/
def Snapshot.parse (s : String) : Except String Snapshot :=
  (Snapshot.decode s).mapError fun f => f.message s.toList

/-- The snapshot that bytes hold, or the wording of the fault. Bytes that are not UTF-8 are put up
with where they are passed over. -/
def Snapshot.parseBytes (bytes : List UInt8) : Except String Snapshot :=
  match Utf8.decode? bytes with
  | some s => parse s
  | none =>
    letI := Json.StrayBytes.marked
    let cs := Json.StrayBytes.ofBytes bytes
    (Json.decode Snapshot.record.read cs).mapError fun f => f.message cs

end HostAgent
