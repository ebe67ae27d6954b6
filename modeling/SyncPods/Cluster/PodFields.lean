import SyncPods.Json.Record

/-!
# The fields of a pod in an answer

An answer that tells of a pod is taken as one if each field that it has holds a value of its type.
Fields may be absent or null, and other fields may come with them.
-/

namespace SyncPods.Cluster

open Json

namespace PodField

/-- A field whose value a reader can read, or null. -/
def of {α : Type} (read : Reader α) (name : String) : String × Reader Unit :=
  (name, fun node => (Node.orNull read node).map fun _ => ())

/-- An object of a type with some fields. -/
def object (type : String) (fields : FieldReaders) : Reader Unit
  | .object members => members.checkResource fields
  | node => .error (node.unexpected type)

def any : Reader Unit := fun node =>
  match node.skip with
  | some fault => .error (.fault fault)
  | none => .ok ()

def int32 : Reader Int := Node.wholeNumber "i32" (-Nat.pow 2 31) (Nat.pow 2 31 - 1)

/-- A number or a name of a port. -/
def intOrText : Reader Unit
  | .string _ => .ok ()
  | node => (int32 node).map fun _ => ()

/-- Two digits as a number within bounds. -/
def twoDigits (least greatest : Nat) (a b : Char) : Bool :=
  let n := (a.toNat - 48) * 10 + (b.toNat - 48)
  a.isDigit && b.isDigit && least ≤ n && n ≤ greatest

/-- The distance of a time from universal time. -/
def isOffset : List Char → Bool
  | ['Z'] => true
  | ['z'] => true
  | [sign, a, b, ':', c, d] =>
    (sign == '+' || sign == '-') && twoDigits 0 23 a b && twoDigits 0 59 c d
  | _ => false

def daysIn (year month : Nat) : Nat :=
  if month = 2 then
    if year % 4 = 0 ∧ (year % 100 ≠ 0 ∨ year % 400 = 0) then 29 else 28
  else if month ∈ [4, 6, 9, 11] then 30
  else 31

/-- The number of some digits. -/
def digitsValue (cs : List Char) : Nat := cs.foldl (fun n c => 10 * n + (c.toNat - 48)) 0

/-- A date with four digits of the year. -/
def isDate (year month day : List Char) : Bool :=
  let m := digitsValue month
  let d := digitsValue day
  (year ++ month ++ day).all Char.isDigit && 1 ≤ m && m ≤ 12 && 1 ≤ d &&
    d ≤ daysIn (digitsValue year) m

/-- A point in time: a date, a time of the day and an offset. -/
def isTime (text : String) : Bool :=
  match text.toList with
  | y₁ :: y₂ :: y₃ :: y₄ :: '-' :: m₁ :: m₂ :: '-' :: d₁ :: d₂ :: t :: h₁ :: h₂ :: ':' :: n₁ :: n₂ ::
      ':' :: s₁ :: s₂ :: rest =>
    let offset? :=
      match rest with
      | '.' :: rest =>
        if (rest.head?.any Char.isDigit) then some (rest.dropWhile Char.isDigit) else none
      | rest => some rest
    isDate [y₁, y₂, y₃, y₄] [m₁, m₂] [d₁, d₂] && (t == 'T' || t == 't' || t == ' ') &&
      twoDigits 0 23 h₁ h₂ && twoDigits 0 59 n₁ n₂ && twoDigits 0 60 s₁ s₂ && offset?.any isOffset
  | _ => false

def time : Reader Unit := fun node => do
  let text ← Node.textAs "a formatted date and time string" node
  if isTime text then .ok () else .error (.mismatch (.refused "input contains invalid characters"))

def texts (names : List String) : FieldReaders := names.map (of Node.text)

def textLists (names : List String) : FieldReaders := names.map (of (Node.list Node.text))

def textDicts (names : List String) : FieldReaders := names.map (of (Node.dict Node.text))

def flags (names : List String) : FieldReaders := names.map (of Node.flag)

def ints (names : List String) : FieldReaders := names.map (of int32)

def longs (names : List String) : FieldReaders := names.map (of Node.int64)

def times (names : List String) : FieldReaders := names.map (of time)

/-- A field of an object that has only texts. -/
def textObject (type : String) (names : List String) (name : String) : String × Reader Unit :=
  of (object type (texts names)) name

/-- A field of a list of objects. -/
def objects (type : String) (fields : FieldReaders) (name : String) : String × Reader Unit :=
  of (Node.list (object type fields)) name

end PodField

open PodField

/-- Fields that every resource has. -/
def metadataFields : FieldReaders :=
  texts ["generateName", "name", "namespace", "resourceVersion", "selfLink", "uid"] ++
    textDicts ["annotations", "labels"] ++ textLists ["finalizers"] ++
    times ["creationTimestamp", "deletionTimestamp"] ++
    longs ["deletionGracePeriodSeconds", "generation"] ++
    [objects "ManagedFieldsEntry"
        (texts ["apiVersion", "fieldsType", "manager", "operation", "subresource"] ++
          times ["time"] ++ [of any "fieldsV1"])
        "managedFields",
      objects "OwnerReference"
        (texts ["apiVersion", "kind", "name", "uid"] ++ flags ["blockOwnerDeletion", "controller"])
        "ownerReferences"]

/-- Fields that name a key of another resource. -/
def keySelectorFields : FieldReaders := texts ["key", "name"] ++ flags ["optional"]

def fieldReferenceFields : FieldReaders := texts ["apiVersion", "fieldPath"]

def resourceReferenceFields : FieldReaders := texts ["containerName", "divisor", "resource"]

def variableFields : FieldReaders :=
  texts ["name", "value"] ++
    [of (object "EnvVarSource"
      [of (object "ConfigMapKeySelector" keySelectorFields) "configMapKeyRef",
        of (object "ObjectFieldSelector" fieldReferenceFields) "fieldRef",
        of (object "ResourceFieldSelector" resourceReferenceFields) "resourceFieldRef",
        of (object "SecretKeySelector" keySelectorFields) "secretKeyRef"]) "valueFrom"]

def commandFields : FieldReaders := textLists ["command"]

def httpFields : FieldReaders :=
  texts ["host", "path", "scheme"] ++
    [of intOrText "port", objects "HTTPHeader" (texts ["name", "value"]) "httpHeaders"]

def socketFields : FieldReaders := texts ["host"] ++ [of intOrText "port"]

def handlerFields : FieldReaders :=
  [of (object "ExecAction" commandFields) "exec", of (object "HTTPGetAction" httpFields) "httpGet",
    of (object "SleepAction" (longs ["seconds"])) "sleep",
    of (object "TCPSocketAction" socketFields) "tcpSocket"]

def probeFields : FieldReaders :=
  ints ["failureThreshold", "initialDelaySeconds", "periodSeconds", "successThreshold",
      "timeoutSeconds"] ++
    longs ["terminationGracePeriodSeconds"] ++
    [of (object "ExecAction" commandFields) "exec",
      of (object "GRPCAction" (ints ["port"] ++ texts ["service"])) "grpc",
      of (object "HTTPGetAction" httpFields) "httpGet",
      of (object "TCPSocketAction" socketFields) "tcpSocket"]

def resourcesFields : FieldReaders :=
  textDicts ["limits", "requests"] ++
    [objects "ResourceClaim" (texts ["name", "request"]) "claims"]

/-- Security fields that pods and containers share. -/
def sharedSecurityFields : FieldReaders :=
  longs ["runAsGroup", "runAsUser"] ++ flags ["runAsNonRoot"] ++
    [textObject "AppArmorProfile" ["localhostProfile", "type"] "appArmorProfile",
      textObject "SELinuxOptions" ["level", "role", "type", "user"] "seLinuxOptions",
      textObject "SeccompProfile" ["localhostProfile", "type"] "seccompProfile",
      of (object "WindowsSecurityContextOptions"
        (texts ["gmsaCredentialSpec", "gmsaCredentialSpecName", "runAsUserName"] ++
          flags ["hostProcess"])) "windowsOptions"]

def containerSecurityFields : FieldReaders :=
  sharedSecurityFields ++
    flags ["allowPrivilegeEscalation", "privileged", "readOnlyRootFilesystem"] ++
    texts ["procMount"] ++ [of (object "Capabilities" (textLists ["add", "drop"])) "capabilities"]

def podSecurityFields : FieldReaders :=
  sharedSecurityFields ++ longs ["fsGroup"] ++
    texts ["fsGroupChangePolicy", "supplementalGroupsPolicy"] ++
    [of (Node.list Node.int64) "supplementalGroups",
      objects "Sysctl" (texts ["name", "value"]) "sysctls"]

def containerFields : FieldReaders :=
  texts ["image", "imagePullPolicy", "name", "restartPolicy", "terminationMessagePath",
      "terminationMessagePolicy", "workingDir"] ++
    textLists ["args", "command"] ++ flags ["stdin", "stdinOnce", "tty"] ++
    [objects "EnvVar" variableFields "env",
      objects "EnvFromSource"
        (texts ["prefix"] ++
          [of (object "ConfigMapEnvSource" (texts ["name"] ++ flags ["optional"])) "configMapRef",
            of (object "SecretEnvSource" (texts ["name"] ++ flags ["optional"])) "secretRef"])
        "envFrom",
      of (object "Lifecycle" [of (object "LifecycleHandler" handlerFields) "postStart",
        of (object "LifecycleHandler" handlerFields) "preStop"]) "lifecycle",
      of (object "Probe" probeFields) "livenessProbe",
      of (object "Probe" probeFields) "readinessProbe",
      of (object "Probe" probeFields) "startupProbe",
      objects "ContainerPort"
        (ints ["containerPort", "hostPort"] ++ texts ["hostIP", "name", "protocol"]) "ports",
      objects "ContainerResizePolicy" (texts ["resourceName", "restartPolicy"]) "resizePolicy",
      of (object "ResourceRequirements" resourcesFields) "resources",
      of (object "SecurityContext" containerSecurityFields) "securityContext",
      objects "VolumeDevice" (texts ["devicePath", "name"]) "volumeDevices",
      objects "VolumeMount"
        (texts ["mountPath", "mountPropagation", "name", "recursiveReadOnly", "subPath",
          "subPathExpr"] ++ flags ["readOnly"]) "volumeMounts"]

/-- Expressions over labels. -/
def expressionFields : FieldReaders := texts ["key", "operator"] ++ textLists ["values"]

def labelSelectorFields : FieldReaders :=
  textDicts ["matchLabels"] ++
    [objects "LabelSelectorRequirement" expressionFields "matchExpressions"]

def nodeTermFields : FieldReaders :=
  [objects "NodeSelectorRequirement" expressionFields "matchExpressions",
    objects "NodeSelectorRequirement" expressionFields "matchFields"]

def podTermFields : FieldReaders :=
  texts ["topologyKey"] ++ textLists ["matchLabelKeys", "mismatchLabelKeys", "namespaces"] ++
    [of (object "LabelSelector" labelSelectorFields) "labelSelector",
      of (object "LabelSelector" labelSelectorFields) "namespaceSelector"]

def podAffinityFields : FieldReaders :=
  [objects "WeightedPodAffinityTerm"
      (ints ["weight"] ++ [of (object "PodAffinityTerm" podTermFields) "podAffinityTerm"])
      "preferredDuringSchedulingIgnoredDuringExecution",
    objects "PodAffinityTerm" podTermFields "requiredDuringSchedulingIgnoredDuringExecution"]

def affinityFields : FieldReaders :=
  [of (object "NodeAffinity"
      [objects "PreferredSchedulingTerm"
          (ints ["weight"] ++ [of (object "NodeSelectorTerm" nodeTermFields) "preference"])
          "preferredDuringSchedulingIgnoredDuringExecution",
        of (object "NodeSelector" [objects "NodeSelectorTerm" nodeTermFields "nodeSelectorTerms"])
          "requiredDuringSchedulingIgnoredDuringExecution"]) "nodeAffinity",
    of (object "PodAffinity" podAffinityFields) "podAffinity",
    of (object "PodAntiAffinity" podAffinityFields) "podAntiAffinity"]

def keyPathFields : FieldReaders := texts ["key", "path"] ++ ints ["mode"]

def downwardFileFields : FieldReaders :=
  texts ["path"] ++ ints ["mode"] ++
    [of (object "ObjectFieldSelector" fieldReferenceFields) "fieldRef",
      of (object "ResourceFieldSelector" resourceReferenceFields) "resourceFieldRef"]

/-- A field that names another resource of the namespace. -/
def localReference (name : String) : String × Reader Unit :=
  textObject "LocalObjectReference" ["name"] name

/-- Sources of files that one projected volume brings together. -/
def projectionFields : FieldReaders :=
  [of (object "ClusterTrustBundleProjection"
      (texts ["name", "path", "signerName"] ++ flags ["optional"] ++
        [of (object "LabelSelector" labelSelectorFields) "labelSelector"])) "clusterTrustBundle",
    of (object "ConfigMapProjection" (texts ["name"] ++ flags ["optional"] ++
      [objects "KeyToPath" keyPathFields "items"])) "configMap",
    of (object "DownwardAPIProjection"
      [objects "DownwardAPIVolumeFile" downwardFileFields "items"]) "downwardAPI",
    of (object "SecretProjection" (texts ["name"] ++ flags ["optional"] ++
      [objects "KeyToPath" keyPathFields "items"])) "secret",
    of (object "ServiceAccountTokenProjection"
      (texts ["audience", "path"] ++ longs ["expirationSeconds"])) "serviceAccountToken"]

def claimFields : FieldReaders :=
  textLists ["accessModes"] ++
    texts ["storageClassName", "volumeAttributesClassName", "volumeMode", "volumeName"] ++
    [textObject "TypedLocalObjectReference" ["apiGroup", "kind", "name"] "dataSource",
      textObject "TypedObjectReference" ["apiGroup", "kind", "name", "namespace"] "dataSourceRef",
      of (object "VolumeResourceRequirements" (textDicts ["limits", "requests"])) "resources",
      of (object "LabelSelector" labelSelectorFields) "selector"]

/-- Volumes of the cluster itself. -/
def ownVolumeFields : FieldReaders :=
  [of (object "ConfigMapVolumeSource" (ints ["defaultMode"] ++ texts ["name"] ++
      flags ["optional"] ++ [objects "KeyToPath" keyPathFields "items"])) "configMap",
    of (object "CSIVolumeSource" (texts ["driver", "fsType"] ++ flags ["readOnly"] ++
      textDicts ["volumeAttributes"] ++ [localReference "nodePublishSecretRef"])) "csi",
    of (object "DownwardAPIVolumeSource" (ints ["defaultMode"] ++
      [objects "DownwardAPIVolumeFile" downwardFileFields "items"])) "downwardAPI",
    textObject "EmptyDirVolumeSource" ["medium", "sizeLimit"] "emptyDir",
    of (object "EphemeralVolumeSource"
      [of (object "PersistentVolumeClaimTemplate"
        [of (object "ObjectMeta" metadataFields) "metadata",
          of (object "PersistentVolumeClaimSpec" claimFields) "spec"]) "volumeClaimTemplate"])
      "ephemeral",
    textObject "HostPathVolumeSource" ["path", "type"] "hostPath",
    textObject "ImageVolumeSource" ["pullPolicy", "reference"] "image",
    of (object "PersistentVolumeClaimVolumeSource" (texts ["claimName"] ++ flags ["readOnly"]))
      "persistentVolumeClaim",
    of (object "ProjectedVolumeSource" (ints ["defaultMode"] ++
      [objects "VolumeProjection" projectionFields "sources"])) "projected",
    of (object "SecretVolumeSource" (ints ["defaultMode"] ++ texts ["secretName"] ++
      flags ["optional"] ++ [objects "KeyToPath" keyPathFields "items"])) "secret"]

/-- Volumes of storage systems. -/
def storageVolumeFields : FieldReaders :=
  [of (object "AWSElasticBlockStoreVolumeSource" (texts ["fsType", "volumeID"] ++
      ints ["partition"] ++ flags ["readOnly"])) "awsElasticBlockStore",
    of (object "AzureDiskVolumeSource" (texts ["cachingMode", "diskName", "diskURI", "fsType",
      "kind"] ++ flags ["readOnly"])) "azureDisk",
    of (object "AzureFileVolumeSource" (texts ["secretName", "shareName"] ++ flags ["readOnly"]))
      "azureFile",
    of (object "CephFSVolumeSource" (textLists ["monitors"] ++ texts ["path", "secretFile",
      "user"] ++ flags ["readOnly"] ++ [localReference "secretRef"])) "cephfs",
    of (object "CinderVolumeSource" (texts ["fsType", "volumeID"] ++ flags ["readOnly"] ++
      [localReference "secretRef"])) "cinder",
    of (object "FCVolumeSource" (texts ["fsType"] ++ ints ["lun"] ++ flags ["readOnly"] ++
      textLists ["targetWWNs", "wwids"])) "fc",
    of (object "FlexVolumeSource" (texts ["driver", "fsType"] ++ textDicts ["options"] ++
      flags ["readOnly"] ++ [localReference "secretRef"])) "flexVolume",
    textObject "FlockerVolumeSource" ["datasetName", "datasetUUID"] "flocker",
    of (object "GCEPersistentDiskVolumeSource" (texts ["fsType", "pdName"] ++
      ints ["partition"] ++ flags ["readOnly"])) "gcePersistentDisk",
    textObject "GitRepoVolumeSource" ["directory", "repository", "revision"] "gitRepo",
    of (object "GlusterfsVolumeSource" (texts ["endpoints", "path"] ++ flags ["readOnly"]))
      "glusterfs",
    of (object "ISCSIVolumeSource" (texts ["fsType", "initiatorName", "iqn", "iscsiInterface",
      "targetPortal"] ++ flags ["chapAuthDiscovery", "chapAuthSession", "readOnly"] ++
      ints ["lun"] ++ textLists ["portals"] ++ [localReference "secretRef"])) "iscsi",
    of (object "NFSVolumeSource" (texts ["path", "server"] ++ flags ["readOnly"])) "nfs",
    textObject "PhotonPersistentDiskVolumeSource" ["fsType", "pdID"] "photonPersistentDisk",
    of (object "PortworxVolumeSource" (texts ["fsType", "volumeID"] ++ flags ["readOnly"]))
      "portworxVolume",
    of (object "QuobyteVolumeSource" (texts ["group", "registry", "tenant", "user", "volume"] ++
      flags ["readOnly"])) "quobyte",
    of (object "RBDVolumeSource" (texts ["fsType", "image", "keyring", "pool", "user"] ++
      textLists ["monitors"] ++ flags ["readOnly"] ++ [localReference "secretRef"])) "rbd",
    of (object "ScaleIOVolumeSource" (texts ["fsType", "gateway", "protectionDomain",
      "storageMode", "storagePool", "system", "volumeName"] ++ flags ["readOnly", "sslEnabled"] ++
      [localReference "secretRef"])) "scaleIO",
    of (object "StorageOSVolumeSource" (texts ["fsType", "volumeName", "volumeNamespace"] ++
      flags ["readOnly"] ++ [localReference "secretRef"])) "storageos",
    textObject "VsphereVirtualDiskVolumeSource"
      ["fsType", "storagePolicyID", "storagePolicyName", "volumePath"] "vsphereVolume"]

def specFields : FieldReaders :=
  texts ["dnsPolicy", "hostname", "nodeName", "preemptionPolicy", "priorityClassName",
      "restartPolicy", "runtimeClassName", "schedulerName", "serviceAccount",
      "serviceAccountName", "subdomain"] ++
    flags ["automountServiceAccountToken", "enableServiceLinks", "hostIPC", "hostNetwork",
      "hostPID", "hostUsers", "setHostnameAsFQDN", "shareProcessNamespace"] ++
    longs ["activeDeadlineSeconds", "terminationGracePeriodSeconds"] ++ ints ["priority"] ++
    textDicts ["nodeSelector", "overhead"] ++
    [of (object "Affinity" affinityFields) "affinity",
      objects "Container" containerFields "containers",
      of (object "PodDNSConfig" (textLists ["nameservers", "searches"] ++
        [objects "PodDNSConfigOption" (texts ["name", "value"]) "options"])) "dnsConfig",
      objects "EphemeralContainer" (containerFields ++ texts ["targetContainerName"])
        "ephemeralContainers",
      objects "HostAlias" (texts ["ip"] ++ textLists ["hostnames"]) "hostAliases",
      objects "LocalObjectReference" (texts ["name"]) "imagePullSecrets",
      objects "Container" containerFields "initContainers",
      textObject "PodOS" ["name"] "os",
      objects "PodReadinessGate" (texts ["conditionType"]) "readinessGates",
      objects "PodResourceClaim"
        (texts ["name", "resourceClaimName", "resourceClaimTemplateName"]) "resourceClaims",
      objects "PodSchedulingGate" (texts ["name"]) "schedulingGates",
      of (object "PodSecurityContext" podSecurityFields) "securityContext",
      objects "Toleration"
        (texts ["effect", "key", "operator", "value"] ++ longs ["tolerationSeconds"]) "tolerations",
      objects "TopologySpreadConstraint"
        (texts ["nodeAffinityPolicy", "nodeTaintsPolicy", "topologyKey", "whenUnsatisfiable"] ++
          ints ["maxSkew", "minDomains"] ++ textLists ["matchLabelKeys"] ++
          [of (object "LabelSelector" labelSelectorFields) "labelSelector"])
        "topologySpreadConstraints",
      objects "Volume" (texts ["name"] ++ ownVolumeFields ++ storageVolumeFields) "volumes"]

def containerStateFields : FieldReaders :=
  [of (object "ContainerStateRunning" (times ["startedAt"])) "running",
    of (object "ContainerStateTerminated" (texts ["containerID", "message", "reason"] ++
      ints ["exitCode", "signal"] ++ times ["finishedAt", "startedAt"])) "terminated",
    textObject "ContainerStateWaiting" ["message", "reason"] "waiting"]

def containerStatusFields : FieldReaders :=
  texts ["containerID", "image", "imageID", "name"] ++ flags ["ready", "started"] ++
    ints ["restartCount"] ++ textDicts ["allocatedResources"] ++
    [objects "ResourceStatus" (texts ["name"] ++
        [objects "ResourceHealth" (texts ["health", "resourceID"]) "resources"])
        "allocatedResourcesStatus",
      of (object "ContainerState" containerStateFields) "lastState",
      of (object "ContainerState" containerStateFields) "state",
      of (object "ResourceRequirements" resourcesFields) "resources",
      of (object "ContainerUser" [of (object "LinuxContainerUser" (longs ["gid", "uid"] ++
        [of (Node.list Node.int64) "supplementalGroups"])) "linux"]) "user",
      objects "VolumeMountStatus"
        (texts ["mountPath", "name", "recursiveReadOnly"] ++ flags ["readOnly"]) "volumeMounts"]

def statusFields : FieldReaders :=
  texts ["hostIP", "message", "nominatedNodeName", "phase", "podIP", "qosClass", "reason",
      "resize"] ++
    times ["startTime"] ++
    [objects "PodCondition" (texts ["message", "reason", "status", "type"] ++
        times ["lastProbeTime", "lastTransitionTime"]) "conditions",
      objects "ContainerStatus" containerStatusFields "containerStatuses",
      objects "ContainerStatus" containerStatusFields "ephemeralContainerStatuses",
      objects "ContainerStatus" containerStatusFields "initContainerStatuses",
      objects "HostIP" (texts ["ip"]) "hostIPs", objects "PodIP" (texts ["ip"]) "podIPs",
      objects "PodResourceClaimStatus" (texts ["name", "resourceClaimName"])
        "resourceClaimStatuses"]

/-- A text that has to be the given one. -/
def fixedText (expected : String) : Reader Unit := fun node => do
  let text ← Node.text node
  if text = expected then .ok ()
  else .error (.mismatch (.wrongValue ("string " ++ Text.quoted text) expected))

/-- Goes through a pod. -/
def checkPod : Reader Unit :=
  object "Pod"
    [("apiVersion", fixedText "v1"), ("kind", fixedText "Pod"),
      of (object "ObjectMeta" metadataFields) "metadata", of (object "PodSpec" specFields) "spec",
      of (object "PodStatus" statusFields) "status"]

/-- Whether a text tells of a pod. -/
def tellsOfPod (text : String) : Bool :=
  match readText checkPod text with
  | .ok _ => true
  | .error _ => false

end SyncPods.Cluster
