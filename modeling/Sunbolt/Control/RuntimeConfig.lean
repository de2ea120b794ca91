/- Module: Sunbolt/Control/RuntimeConfig
   scope: sunbolt-control/src/config.rs
   digest: The browser origins that the environment lists, and what production accepts. -/

import Sunbolt.Auth.AuthStore
import Sunbolt.Auth.Spellings

set_option autoImplicit false
set_option relaxedAutoImplicit false

namespace Sunbolt.Control

open Sunbolt.Audit (isWhitespace)
open Sunbolt.Auth (AuthConfig mem_trim trim)

inductive RuntimeMode where
  | development
  | production
  deriving DecidableEq, Repr

/-- The errors of `validate_runtime_config_for_mode`. -/
inductive StartupError where
  | missingProductionConfig (name : String)
  | unsafeProductionConfig (reason : String)
  deriving DecidableEq, Repr

/-- The auth settings, with the one that only the startup reads. -/
structure StartupAuthConfig extends AuthConfig where
  bootstrapAdmin : Bool

/-- Settings that production accepts. -/
def StartupAuthConfig.production : StartupAuthConfig :=
  { AuthConfig.default with secureCookie := true, bootstrapAdmin := false }

def requiredProductionConfigVars : List String := ["SUNBOLT_DATABASE_URL", "SUNBOLT_PUBLIC_URL"]

/-- `allowed_origins_from_env`, for the value of the variable. -/
def allowedOriginsFromEnv (value : Option String) : List String :=
  match value.filter (fun s => trim s.toList ≠ []) with
  | none => []
  | some s =>
    (((s.toList.splitOn ',').map trim).filter (fun origin => origin ≠ [])).map String.ofList

def validateRuntimeConfigForMode (mode : RuntimeMode) (authConfig : StartupAuthConfig)
    (allowedOrigins : List String) (lookup : String → Option String) :
    Except StartupError Unit :=
  if mode ≠ .production then .ok ()
  else
    match requiredProductionConfigVars.find? (fun name =>
      (lookup name).all (fun value => trim value.toList = [])) with
    | some name => .error (.missingProductionConfig name)
    | none =>
      if authConfig.bootstrapAdmin then
        .error (.unsafeProductionConfig
          "SUNBOLT_DEV_BOOTSTRAP_ADMIN must be false in production")
      else if !authConfig.secureCookie then
        .error (.unsafeProductionConfig "SUNBOLT_COOKIE_SECURE must be true in production")
      else if allowedOrigins.isEmpty || allowedOrigins.any (fun origin => origin = "*") then
        .error (.unsafeProductionConfig
          "SUNBOLT_ALLOWED_ORIGINS must list explicit browser origins in production")
      else .ok ()

/-- `allows_any_origin`. -/
def allowsAnyOrigin (allowedOrigins : List String) : Bool :=
  allowedOrigins.isEmpty || allowedOrigins.any (fun origin => origin = "*")

/-- Production has a list of explicit origins. -/
theorem explicit_of_validate {authConfig : StartupAuthConfig} {allowedOrigins : List String}
    {lookup : String → Option String}
    (h : validateRuntimeConfigForMode .production authConfig allowedOrigins lookup = .ok ()) :
    allowsAnyOrigin allowedOrigins = false := by
  rw [validateRuntimeConfigForMode, if_neg (by decide)] at h
  split at h
  · cases h
  · split_ifs at h with _ _ hpermissive
    exact eq_false_of_ne_true hpermissive

/-- A listed origin is not empty, and neither starts nor ends with a blank. -/
theorem mem_allowedOriginsFromEnv {value : Option String} {origin : String}
    (h : origin ∈ allowedOriginsFromEnv value) :
    origin.toList ≠ [] ∧ trim origin.toList = origin.toList := by
  rw [allowedOriginsFromEnv] at h
  split at h
  · cases h
  · obtain ⟨text, htext, rfl⟩ := List.mem_map.mp h
    obtain ⟨hmem, hne⟩ := List.mem_filter.mp htext
    obtain ⟨part, -, rfl⟩ := List.mem_map.mp hmem
    rw [String.toList_ofList]
    exact ⟨of_decide_eq_true hne, Sunbolt.Auth.trim_idem part⟩

end Sunbolt.Control
