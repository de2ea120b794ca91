/- Module: Sunbolt/Control/Startup
   scope: sunbolt-control/src/config.rs, sunbolt-control/src/state.rs, sunbolt-storage/src/config.rs
   digest: What the control plane reads at startup, what it refuses, and the state it starts in. -/

import Sunbolt.Control.AuthHandlers
import Sunbolt.Control.ExpiryInstants
import Sunbolt.Control.RuntimeConfig

set_option autoImplicit false
set_option relaxedAutoImplicit false

namespace Sunbolt.Control

open Sunbolt.Library
open Sunbolt.Audit (toAsciiLowercase)
open Sunbolt.Auth (AuthConfig AuthStore Primitives User normalizeEmail passwordHash trim)

/-! The environment of the process. -/

/-- `std::env::VarError`. -/
inductive VarError where
  | notPresent
  | notUnicode
  deriving DecidableEq, Repr

/-- The variables of the environment. -/
structure Env where
  var : String → Except VarError String

/-- `env_lookup`. -/
def Env.lookup (env : Env) (name : String) : Option String := (env.var name).toOption

/-- The errors of `StorageError` that a startup ends with. -/
inductive StorageError where
  | missingEnvVar (name : String)
  | invalidEnvVar (name value : String)
  | connect (error : String)
  | ping (error : String)
  deriving DecidableEq, Repr

/-- The errors of a startup; those of the validation are the `StartupError`s of it. -/
inductive StartError where
  | missingRequiredEnv (name : String)
  | invalidRuntimeMode (error : String)
  | config (error : StartupError)
  | missingProductionStorage (error : StorageError)
  | storageUnavailable (error : StorageError)
  | nonDurableProductionState (state : String)
  deriving DecidableEq, Repr

def RuntimeMode.parse (value : String) : Except StartError RuntimeMode :=
  let value := String.ofList (trim value.toList)
  if value = "development" then .ok .development
  else if value = "production" then .ok .production
  else .error (.invalidRuntimeMode
    ("invalid SUNBOLT_ENV `" ++ value ++ "`; expected `development` or `production`"))

def RuntimeMode.fromEnv (env : Env) : Except StartError RuntimeMode :=
  match env.var "SUNBOLT_ENV" with
  | .ok value => RuntimeMode.parse value
  | .error .notPresent => .error (.missingRequiredEnv "SUNBOLT_ENV")
  | .error .notUnicode =>
    .error (.invalidRuntimeMode "invalid SUNBOLT_ENV; value must be valid Unicode")

/-! The settings of the auth service. -/

/-- `env_bool`, for the value of the variable. -/
def envBool (value : Option String) : Option Bool :=
  value.bind (fun value =>
    let value := String.ofList ((trim value.toList).map toAsciiLowercase)
    if value ∈ ["1", "true", "yes", "on"] then some true
    else if value ∈ ["0", "false", "no", "off"] then some false
    else none)

/-- A variable that is not blank. -/
def envText (value : Option String) : Option String :=
  value.filter (fun value => trim value.toList ≠ [])

/-- `AuthConfig`, with the account that the service starts with. -/
structure ServiceConfig extends StartupAuthConfig where
  adminEmail : String
  adminPassword : String

def defaultRecentMfaTtlSecs : UInt64 := 10 * 60
def defaultAdminEmail : String := "admin@sunbolt.local"
def defaultAdminPassword : String := "sunbolt-dev-admin"

/-- `AuthConfig::from_env`. -/
def ServiceConfig.fromEnv (env : Env) : ServiceConfig where
  secureCookie := (envBool (env.lookup "SUNBOLT_COOKIE_SECURE")).getD false
  sessionTtl := secs (sessionTtlSecs (env.lookup "SUNBOLT_SESSION_TTL_SECS")).toNat
  recentMfaTtl := secs ((envU64 (env.lookup "SUNBOLT_RECENT_MFA_TTL_SECS")).getD
    defaultRecentMfaTtlSecs).toNat
  requireStepUpMfaForTerminal :=
    (envBool (env.lookup "SUNBOLT_REQUIRE_TERMINAL_STEP_UP_MFA")).getD true
  bootstrapAdmin := (envBool (env.lookup "SUNBOLT_DEV_BOOTSTRAP_ADMIN")).getD true
  adminEmail := (envText (env.lookup "SUNBOLT_DEV_ADMIN_EMAIL")).getD defaultAdminEmail
  adminPassword := (envText (env.lookup "SUNBOLT_DEV_ADMIN_PASSWORD")).getD defaultAdminPassword

/-- `AuthService::new`: the account is added before anyone can call the service. -/
def ServiceConfig.service (primitives : Primitives) (config : ServiceConfig) : AuthState :=
  if config.bootstrapAdmin then
    { AuthState.new with store := (AuthStore.default.upsertUser primitives config.adminEmail
        config.adminPassword .admin).1 }
  else AuthState.new

/-! Durable storage. -/

inductive ProductionStateBackend where
  | postgres
  | recoverableFromDurableSessionStore
  | runtimeOnly
  deriving DecidableEq, Repr

def ProductionStateBackend.isDurableOrRecoverable (backend : ProductionStateBackend) : Bool :=
  backend = .postgres || backend = .recoverableFromDurableSessionStore

structure ProductionStateConfig where
  users : ProductionStateBackend
  authSessions : ProductionStateBackend
  recentMfa : ProductionStateBackend
  nodesAndCredentials : ProductionStateBackend
  terminalSessionMetadata : ProductionStateBackend
  auditLogs : ProductionStateBackend
  deriving DecidableEq, Repr

namespace ProductionStateConfig

def postgres : ProductionStateConfig where
  users := .postgres
  authSessions := .postgres
  recentMfa := .recoverableFromDurableSessionStore
  nodesAndCredentials := .postgres
  terminalSessionMetadata := .postgres
  auditLogs := .postgres

def developmentRuntimeOnly : ProductionStateConfig where
  users := .runtimeOnly
  authSessions := .runtimeOnly
  recentMfa := .runtimeOnly
  nodesAndCredentials := .runtimeOnly
  terminalSessionMetadata := .runtimeOnly
  auditLogs := .runtimeOnly

def requiredStates (config : ProductionStateConfig) : List (String × ProductionStateBackend) :=
  [("users", config.users), ("auth sessions", config.authSessions),
    ("recent MFA state", config.recentMfa), ("nodes and credentials", config.nodesAndCredentials),
    ("terminal session metadata", config.terminalSessionMetadata), ("audit logs", config.auditLogs)]

def validateFor (config : ProductionStateConfig) (mode : RuntimeMode) : Except StartError Unit :=
  if mode ≠ .production then .ok ()
  else
    match config.requiredStates.find? (fun state => !state.2.isDurableOrRecoverable) with
    | some state => .error (.nonDurableProductionState state.1)
    | none => .ok ()

end ProductionStateConfig

structure PostgresConfig where
  databaseUrl : String
  maxConnections : UInt32
  minConnections : UInt32
  connectTimeoutSecs : UInt64
  acquireTimeoutSecs : UInt64

/-- `str::parse::<u32>`. -/
def parseU32 (text : String) : Option UInt32 :=
  (parseU64 text).bind (fun n => if n.toNat < 2 ^ 32 then some n.toUInt32 else none)

def requiredEnv (env : Env) (name : String) : Except StorageError String :=
  match env.var name with
  | .ok value => .ok value
  | .error _ => .error (.missingEnvVar name)

/-- `parse_u32_env` and `parse_u64_env`. -/
def parseEnv {α : Type} (parse : String → Option α) (env : Env) (name : String) (default : α) :
    Except StorageError α :=
  match env.var name with
  | .error .notPresent => .ok default
  | .error .notUnicode => .error (.invalidEnvVar name "<non-utf8>")
  | .ok value =>
    match parse value with
    | some n => .ok n
    | none => .error (.invalidEnvVar name value)

def PostgresConfig.fromEnv (env : Env) : Except StorageError PostgresConfig := do
  let databaseUrl ← requiredEnv env "SUNBOLT_DATABASE_URL"
  let maxConnections ← parseEnv parseU32 env "SUNBOLT_DB_MAX_CONNECTIONS" 16
  let minConnections ← parseEnv parseU32 env "SUNBOLT_DB_MIN_CONNECTIONS" 1
  let connectTimeoutSecs ← parseEnv parseU64 env "SUNBOLT_DB_CONNECT_TIMEOUT_SECS" 10
  let acquireTimeoutSecs ← parseEnv parseU64 env "SUNBOLT_DB_ACQUIRE_TIMEOUT_SECS" 10
  return ⟨databaseUrl, maxConnections, minConnections, connectTimeoutSecs, acquireTimeoutSecs⟩

/-- How the database answers: to the connection with these settings, and to the ping. -/
structure Database where
  connect : PostgresConfig → Except String Unit
  ping : PostgresConfig → Except String Unit

structure ProductionState where
  storage : Option PostgresConfig
  backends : ProductionStateConfig

def ProductionState.development : ProductionState := ⟨none, .developmentRuntimeOnly⟩

/-- `ProductionState::from_mode`; the storage is named by the settings it was opened with. -/
def ProductionState.fromMode (mode : RuntimeMode) (env : Env) (database : Database) :
    Except StartError ProductionState := do
  if mode ≠ .production then return .development
  else
    let backends := ProductionStateConfig.postgres
    backends.validateFor mode
    let config ← (PostgresConfig.fromEnv env).mapError .missingProductionStorage
    (database.connect config).mapError (fun error => .storageUnavailable (.connect error))
    (database.ping config).mapError (fun error => .storageUnavailable (.ping error))
    return ⟨some config, backends⟩

/-- What `AppState::try_from_env` sets up; the registries and limiters of it start empty. -/
structure StartedApp where
  runtimeMode : RuntimeMode
  productionState : ProductionState
  config : ServiceConfig
  allowedOrigins : List String

def StartedApp.tryFromEnv (env : Env) (database : Database) : Except StartError StartedApp := do
  let runtimeMode ← RuntimeMode.fromEnv env
  let config := ServiceConfig.fromEnv env
  let allowedOrigins := allowedOriginsFromEnv (env.lookup "SUNBOLT_ALLOWED_ORIGINS")
  (validateRuntimeConfigForMode runtimeMode config.toStartupAuthConfig allowedOrigins
    env.lookup).mapError .config
  let productionState ← ProductionState.fromMode runtimeMode env database
  return ⟨runtimeMode, productionState, config, allowedOrigins⟩

end Sunbolt.Control
