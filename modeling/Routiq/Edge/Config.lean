/-! The part of the hot-reloaded gateway configuration that requests read.
Maps are partial functions: nothing in the hot path depends on their order. -/
namespace Routiq.Edge.Config

structure Upstream where
  (name address : String)
  weight : Nat
  version : String
deriving DecidableEq

structure CanaryPolicy where
  version : String
  percent : Nat
deriving DecidableEq

structure QuotaPolicy where
  (dailyLimit borrowPercent : Nat)
deriving DecidableEq

inductive FieldType where
  | string | number | boolean | object | array
deriving DecidableEq

structure RequiredField where
  field : String
  type : FieldType
deriving DecidableEq

structure ValidationConfig where
  maxBodyBytes : Option Nat
  requireJson : Bool
  required : List RequiredField
deriving DecidableEq

structure ServiceConfig where
  name : String
  rateLimitMax : Nat
  regionalUpstreams : String → Option (List Upstream)
  requireAuth : Bool
  canary : Option CanaryPolicy
  quota : Option QuotaPolicy

structure GatewayConfig where
  globalMaxConcurrency : Nat
  jwtSecret : String
  jwtKeys : String → Option String
  (expectedIssuer expectedAudience : String)
  services : String → Option ServiceConfig

def GatewayConfig.default : GatewayConfig where
  globalMaxConcurrency := 10000
  jwtSecret := "default_secret"
  jwtKeys := fun _ => none
  expectedIssuer := "api-gateway-auth-server"
  expectedAudience := "api-gateway-clients"
  services := fun _ => none

end Routiq.Edge.Config
