/- Module: Sunbolt/Agent/AgentRuntime
   scope: sunbolt-agent/src/lib.rs
   digest: Agent processes, their identity files and the control plane they enroll with. -/

import Sunbolt.Control.NodeCredentials
import Sunbolt.Library.Machine

set_option autoImplicit false
set_option relaxedAutoImplicit false

namespace Sunbolt.Agent

open Sunbolt.Auth (trim)
open Sunbolt.Control (AgentEnrollmentRequest AgentEnrollmentResponse EnrollmentCall
  EnrollmentEvent EnrollmentReply NodeEnrollmentRegistry RandomBytes heartbeatRequest)
open Sunbolt.Library

/-! The environment of a process. -/

section Environment

variable (lookup : String → Option String)

def isBlank (value : String) : Bool := trim value.toList = []

/-- The variable, unless it is blank. -/
def setting (name : String) : Option String := (lookup name).filter (fun value => !isBlank value)

def defaultControlPlaneUrl : String := "http://127.0.0.1:3000"
def localAgentName : String := "local-agent"
def agentIdentityFileName : String := "identity.json"

/-- `HOSTNAME` is taken even if it is blank, and then the name is the default one. -/
def hostnameFromLookup : String :=
  (((lookup "HOSTNAME").or (lookup "COMPUTERNAME")).filter (fun value => !isBlank value)).getD
    localAgentName

def defaultNodeName : String :=
  if isBlank (hostnameFromLookup lookup) then localAgentName else hostnameFromLookup lookup

/-- `PathBuf::join` with a relative path. -/
def joinPath (path name : String) : String :=
  if path = "" then name
  else if path.toList.getLast? = some '/' then path ++ name
  else path ++ "/" ++ name

def defaultIdentityPath : String :=
  match setting lookup "XDG_CONFIG_HOME" with
  | some configHome => joinPath (joinPath configHome "sunbolt") agentIdentityFileName
  | none =>
    match setting lookup "HOME" with
    | some home =>
      joinPath (joinPath (joinPath home ".config") "sunbolt") agentIdentityFileName
    | none =>
      match setting lookup "USERPROFILE" with
      | some profile =>
        joinPath (joinPath (joinPath (joinPath profile "AppData") "Roaming") "Sunbolt")
          agentIdentityFileName
      | none => joinPath ".sunbolt" agentIdentityFileName

structure AgentConfig where
  controlPlaneUrl : String
  nodeName : String
  enrollmentToken : Option String
  identityPath : String
  deriving DecidableEq, Repr

def AgentConfig.fromLookup : AgentConfig where
  controlPlaneUrl := (setting lookup "SUNBOLT_CONTROL_PLANE_URL").getD defaultControlPlaneUrl
  nodeName := (setting lookup "SUNBOLT_AGENT_NODE_NAME").getD (defaultNodeName lookup)
  enrollmentToken := setting lookup "SUNBOLT_AGENT_ENROLLMENT_TOKEN"
  identityPath := (setting lookup "SUNBOLT_AGENT_IDENTITY_PATH").getD (defaultIdentityPath lookup)

/-- The constants of the build. -/
structure Build where
  os : String
  arch : String
  version : String

def LocalNodeInfo.fromLookup (build : Build) : LocalNodeInfo where
  hostname := hostnameFromLookup lookup
  os := build.os
  architecture := build.arch
  agentVersion := build.version

end Environment

/-! Enrollment and the identity file. -/

/-- The errors of `AgentError` that a process ends with. -/
inductive RuntimeError where
  | missingEnrollmentToken
  | controlPlaneRequest
  | identityIo
  | identityFormat
  deriving DecidableEq, Repr

/-- `AgentEnrollmentRequest::from_config`. -/
def AgentConfig.enrollmentRequest (config : AgentConfig) (nodeInfo : LocalNodeInfo) :
    Except RuntimeError AgentEnrollmentRequest :=
  match config.enrollmentToken with
  | none => .error .missingEnrollmentToken
  | some token =>
    .ok {
      token := token
      nodeName := config.nodeName
      hostname := nodeInfo.hostname
      os := nodeInfo.os
      architecture := nodeInfo.architecture
      agentVersion := nodeInfo.agentVersion }

def AgentNodeIdentity.fromEnrollment (enrollment : AgentEnrollmentResponse)
    (nodeInfo : LocalNodeInfo) : AgentNodeIdentity where
  nodeId := enrollment.nodeId
  credentialFingerprint := enrollment.credentialFingerprint
  credentialSecret := enrollment.credentialSecret
  credentialExpiresAtUnixSecs := enrollment.credentialExpiresAtUnixSecs
  agentVersion := nodeInfo.agentVersion

/-- What is in an identity file: what was written of it before the writing was cut off is no
    JSON text of an identity. -/
inductive IdentityFile where
  | missing
  | cutOff
  | complete (identity : AgentNodeIdentity)
  deriving DecidableEq, Repr

/-- `AgentNodeIdentity::load_from_path`. -/
def IdentityFile.load (file : IdentityFile) (readable : Bool) :
    Except RuntimeError (Option AgentNodeIdentity) :=
  if !readable then .error .identityIo
  else
    match file with
    | .missing => .ok none
    | .cutOff => .error .identityFormat
    | .complete identity => .ok (some identity)

/-! The processes. -/

inductive Phase where
  /-- There was no identity: the request of `enroll` is to be sent. -/
  | enrolling (request : AgentEnrollmentRequest)
  | enrolled (response : AgentEnrollmentResponse)
  /-- The file is open and empty. -/
  | saving (identity : AgentNodeIdentity)
  /-- In `run_until_shutdown` with the connection: a heartbeat is next, or the shutdown. -/
  | connected (connection : PreparedConnection)
  | ended (result : Except RuntimeError Unit)
  | killed

/-- No more comes of the process. -/
def Phase.isOver : Phase → Bool
  | .ended _ => true
  | .killed => true
  | _ => false

structure Process where
  config : AgentConfig
  nodeInfo : LocalNodeInfo
  phase : Phase

def Process.path (process : Process) : String := process.config.identityPath

/-- The control plane, the files by path and the processes in the order of their starts. -/
structure Hosts where
  registry : NodeEnrollmentRegistry
  files : String → IdentityFile
  processes : List Process

def Hosts.initial : Hosts := ⟨.default, fun _ => .missing, []⟩

/-- A call that the control plane has served, of one of the processes or of somebody else. -/
structure HostCall where
  caller : Option Nat
  event : EnrollmentEvent

/-- What becomes of a request: it is lost, its answer is lost, or it is answered. -/
inductive Delivery where
  | lost
  | unanswered
  | answered

/-- The identity is written as a whole, and then perhaps its permissions are not set, or it is
    not. -/
inductive Writing where
  | whole (restricted : Bool)
  | cutOff

/-- A process starts, one that was started goes on, or somebody else calls the control plane. -/
inductive HostEvent where
  | start (lookup : String → Option String) (build : Build) (readable : Bool)
  | enroll (process : Nat) (delivery : Delivery) (bytes : RandomBytes) (now : Nat) (system : Int)
  | openFile (process : Nat) (opened : Bool)
  | writeFile (process : Nat) (writing : Writing)
  | heartbeat (process : Nat) (delivery : Delivery) (now : Nat)
  | shutdown (process : Nat)
  | kill (process : Nat)
  | other (call : EnrollmentCall)

namespace Hosts

variable (hosts : Hosts)

/-- A process with this identity file is running. -/
def isRunning (path : String) : Bool :=
  hosts.processes.any (fun process => process.path = path && !process.phase.isOver)

def setFile (path : String) (file : IdentityFile) : Hosts :=
  { hosts with files := Function.update hosts.files path file }

def setPhase (index : Nat) (phase : Phase) : Hosts :=
  { hosts with processes := hosts.processes.modify index ({ · with phase }) }

end Hosts

section Digest

variable (sha256 : ByteArray → List UInt8)

/-- The state after a call, with the record of it. -/
def Hosts.serve (hosts : Hosts) (caller : Option Nat) (call : EnrollmentCall) :
    Hosts × HostCall :=
  let event := served (NodeEnrollmentRegistry.serve sha256) hosts.registry call
  ({ hosts with registry := event.after }, ⟨caller, event⟩)

/-- A request of a process; without an answer of success the process ends. -/
def Hosts.exchange (hosts : Hosts) (index : Nat) (call : EnrollmentCall) (delivery : Delivery)
    (next : EnrollmentReply → Phase) : Hosts × List HostCall :=
  let failed := Phase.ended (.error .controlPlaneRequest)
  let (after, record) := hosts.serve sha256 (some index) call
  match delivery with
  | .lost => (hosts.setPhase index failed, [])
  | .unanswered => (after.setPhase index failed, [record])
  | .answered => (after.setPhase index (next record.event.reply), [record])

/-- The phase in which `load_or_enroll_identity` leaves a process that has read its file. -/
def phaseAtStart (config : AgentConfig) (nodeInfo : LocalNodeInfo)
    (loaded : Except RuntimeError (Option AgentNodeIdentity)) : Phase :=
  match loaded with
  | .error error => .ended (.error error)
  | .ok (some identity) => .connected (.new sha256 config.controlPlaneUrl identity nodeInfo)
  | .ok none =>
    match config.enrollmentRequest nodeInfo with
    | .error error => .ended (.error error)
    | .ok request => .enrolling request

def afterEnroll : EnrollmentReply → Phase
  | .enrolled (.ok response) => .enrolled response
  | _ => .ended (.error .controlPlaneRequest)

def afterHeartbeat (connection : PreparedConnection) : EnrollmentReply → Phase
  | .viewed (.ok _) => .connected connection
  | _ => .ended (.error .controlPlaneRequest)

/-- The step of a process in its phase, where the event is one of that phase. -/
def Hosts.proceed (hosts : Hosts) (index : Nat) (process : Process) :
    HostEvent → Phase → Option (Hosts × List HostCall)
  | .enroll _ delivery bytes now system, .enrolling request =>
    some (hosts.exchange sha256 index (.enroll request bytes now system) delivery afterEnroll)
  | .openFile _ opened, .enrolled response =>
    if opened then
      let identity := AgentNodeIdentity.fromEnrollment response process.nodeInfo
      some ((hosts.setFile process.path .cutOff).setPhase index (.saving identity), [])
    else some (hosts.setPhase index (.ended (.error .identityIo)), [])
  | .writeFile _ (.whole restricted), .saving identity =>
    let connection := PreparedConnection.new sha256 process.config.controlPlaneUrl identity
      process.nodeInfo
    let phase := if restricted then .connected connection else .ended (.error .identityIo)
    some ((hosts.setFile process.path (.complete identity)).setPhase index phase, [])
  | .writeFile _ .cutOff, .saving _ =>
    some (hosts.setPhase index (.ended (.error .identityFormat)), [])
  | .heartbeat _ delivery now, .connected connection =>
    some (hosts.exchange sha256 index (.heartbeat (heartbeatRequest connection.heartbeat) now)
      delivery (afterHeartbeat connection))
  | .shutdown _, .connected _ => some (hosts.setPhase index (.ended (.ok ())), [])
  | .kill _, phase => if phase.isOver then none else some (hosts.setPhase index .killed, [])
  | _, _ => none

def HostEvent.process : HostEvent → Option Nat
  | .start .. => none
  | .enroll process .. => some process
  | .openFile process _ => some process
  | .writeFile process _ => some process
  | .heartbeat process .. => some process
  | .shutdown process => some process
  | .kill process => some process
  | .other _ => none

/-- One agent at a time uses an identity file. -/
def Hosts.step (hosts : Hosts) (event : HostEvent) : Option (Hosts × List HostCall) :=
  match event with
  | .start lookup build readable =>
    let config := AgentConfig.fromLookup lookup
    let nodeInfo := LocalNodeInfo.fromLookup lookup build
    let loaded := (hosts.files config.identityPath).load readable
    if hosts.isRunning config.identityPath then none
    else
      some ({ hosts with processes := hosts.processes ++
        [⟨config, nodeInfo, phaseAtStart sha256 config nodeInfo loaded⟩] }, [])
  | .other call =>
    let (after, record) := hosts.serve sha256 none call
    some (after, [record])
  | event =>
    match event.process with
    | none => none
    | some index =>
      (hosts.processes[index]?).bind (fun process =>
        hosts.proceed sha256 index process event process.phase)

/-- The agents of a control plane; a step shows the calls that the control plane serves in it. -/
def agentHosts : Machine Hosts HostEvent HostCall := ⟨Hosts.step sha256⟩

end Digest

end Sunbolt.Agent
