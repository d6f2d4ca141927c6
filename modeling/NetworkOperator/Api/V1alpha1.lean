import Mathlib.Data.Rat.Defs
import NetworkOperator.Support.GoMap

/-!
# Api — the `v1alpha1` types the code reads

The types of `api/v1alpha1` are not part of the sources; what is here is what `manager.go`,
`drain_manager.go` and the validator read of them, under their Go names.  Embedding is
flattened: a spec that embeds `ImageSpec` has an `imageSpec` field, and `DevicePluginSpec` and
`MultusSpec`, which embed `ImageSpecWithConfig`, have its `imageSpec` and `config`.  Which Go
struct embeds which is kept for reflection in `apiTypes`.

A `resource.Quantity` is an exact rational (`IsZero` and `Cmp` are exact), and a nil map of
resources is the empty one: ranging over either visits nothing and a lookup misses in both.
-/

namespace NetworkOperator.V1alpha1

/-- `ResourceRequirements`: a container's name and its requests and limits, by resource name. -/
structure ResourceRequirements where
  name : String
  requests : GoMap String ℚ
  limits : GoMap String ℚ

/-- `ImageSpec`.  `containerResources` is `none` for a nil slice. -/
structure ImageSpec where
  image : String
  repository : String
  version : String
  containerResources : Option (List ResourceRequirements)

/-- `DriverUpgradePolicySpec`, as far as `validateSafeLoad` reads it. -/
structure DriverUpgradePolicySpec where
  autoUpgrade : Bool
  safeLoad : Bool

/-- `OFEDDriverSpec`: embeds `ImageSpec`. -/
structure OFEDDriverSpec where
  imageSpec : ImageSpec
  ofedUpgradePolicy : Option DriverUpgradePolicySpec

/-- `DevicePluginSpec`: embeds `ImageSpecWithConfig`, whose `Config` is a `*string`. -/
structure DevicePluginSpec where
  imageSpec : ImageSpec
  config : Option String

/-- `IBKubernetesSpec`: embeds `ImageSpec`. -/
structure IBKubernetesSpec where
  imageSpec : ImageSpec
  pKeyGUIDPoolRangeStart : String
  pKeyGUIDPoolRangeEnd : String

/-- `NVIPAMSpec`: embeds `ImageSpec`. -/
structure NVIPAMSpec where
  imageSpec : ImageSpec

/-- `NICFeatureDiscoverySpec`: embeds `ImageSpec`. -/
structure NICFeatureDiscoverySpec where
  imageSpec : ImageSpec

/-- `MultusSpec`: embeds `ImageSpecWithConfig`. -/
structure MultusSpec where
  imageSpec : ImageSpec
  config : Option String

/-- `SecondaryNetworkSpec`: `CniPlugins`, `IPoIB` and `IpamPlugin` are `*ImageSpec`
(`CNIPluginsManifestRenderData.CrSpec` is assigned `CniPlugins`). -/
structure SecondaryNetworkSpec where
  cniPlugins : Option ImageSpec
  multus : Option MultusSpec
  ipoib : Option ImageSpec
  ipamPlugin : Option ImageSpec

/-- A `corev1.Toleration`, carried to the render data only. -/
structure Toleration where
  key : String
  operator : String
  value : String
  effect : String

/-- `NicClusterPolicySpec`.  `nodeAffinity` is carried to the render data only, and is kept
as its serialized form. -/
structure NicClusterPolicySpec where
  ofedDriver : Option OFEDDriverSpec
  rdmaSharedDevicePlugin : Option DevicePluginSpec
  sriovDevicePlugin : Option DevicePluginSpec
  ibKubernetes : Option IBKubernetesSpec
  nvIpam : Option NVIPAMSpec
  nicFeatureDiscovery : Option NICFeatureDiscoverySpec
  secondaryNetwork : Option SecondaryNetworkSpec
  tolerations : List Toleration
  nodeAffinity : Option String

/-- `NicClusterPolicy`: its object name, and its spec. -/
structure NicClusterPolicy where
  name : String
  spec : NicClusterPolicySpec

/-- `DrainSpec`.  `TimeoutSecond` is a Go `int`. -/
structure DrainSpec where
  enable : Bool
  force : Bool
  podSelector : String
  timeoutSecond : Int
  deleteEmptyDir : Bool

/-! ### The struct types, for reflection -/

/-- A field of a Go struct type: its name, whether it is embedded, and its type's name. -/
structure GoField where
  name : String
  embedded : Bool
  type : String

/-- The struct types of the API that `FieldByName` walks through, by name: every embedded
field, and the fields the validator asks for by name. -/
def apiTypes : String → List GoField
  | "ImageSpec" => [⟨"Image", false, "string"⟩, ⟨"Repository", false, "string"⟩,
      ⟨"Version", false, "string"⟩, ⟨"ContainerResources", false, "[]ResourceRequirements"⟩]
  | "ImageSpecWithConfig" => [⟨"Config", false, "*string"⟩, ⟨"ImageSpec", true, "ImageSpec"⟩]
  | "OFEDDriverSpec" => [⟨"ImageSpec", true, "ImageSpec"⟩,
      ⟨"OfedUpgradePolicy", false, "*DriverUpgradePolicySpec"⟩]
  | "DevicePluginSpec" => [⟨"ImageSpecWithConfig", true, "ImageSpecWithConfig"⟩]
  | "IBKubernetesSpec" => [⟨"ImageSpec", true, "ImageSpec"⟩,
      ⟨"PKeyGUIDPoolRangeStart", false, "string"⟩, ⟨"PKeyGUIDPoolRangeEnd", false, "string"⟩]
  | "NVIPAMSpec" => [⟨"ImageSpec", true, "ImageSpec"⟩]
  | "NICFeatureDiscoverySpec" => [⟨"ImageSpec", true, "ImageSpec"⟩]
  | "MultusSpec" => [⟨"ImageSpecWithConfig", true, "ImageSpecWithConfig"⟩]
  | _ => []

/-- `reflect.Type.FieldByName`, breadth first through embedded fields, at most `depth` levels
down: the type of the one field named `name` at the shallowest level holding one; none when
there is none, or two at that level. -/
def fieldByName (types : String → List GoField) (name : String) : Nat → List String → Option String
  | depth, level =>
    match level.flatMap (fun t => (types t).filter (·.name == name)) with
    | [f] => some f.type
    | _ :: _ :: _ => none
    | [] =>
      match depth with
      | 0 => none
      | d + 1 =>
        fieldByName types name d (level.flatMap fun t => ((types t).filter (·.embedded)).map (·.type))

end NetworkOperator.V1alpha1
