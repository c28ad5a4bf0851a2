import RmwOpendds.Library.StdString
import RmwOpendds.Qos

/-! The naming conventions: `namespace_prefix.cpp`, `demangle.cpp`, and the
names that `DDSTopic` and `Service` build. A `std::string` is the list of its
characters, the empty string of a refusal is `[]`, and an exception is an error
carrying its text. The warnings that demangling logs change no result and are
left out. -/

namespace RmwOpendds.Names

open Library Library.StdString

def rosTopicPrefix : StdString := "rt".toList
def rosServiceRequesterPrefix : StdString := "rq".toList
def rosServiceResponsePrefix : StdString := "rr".toList

def rosPrefixes : List StdString :=
  [rosTopicPrefix, rosServiceRequesterPrefix, rosServiceResponsePrefix]

/-- The prefix that is followed by a slash at the start of the name, or `""`. -/
def getRosPrefixIfExists (topicName : StdString) : StdString :=
  (rosPrefixes.find? fun pre => (pre ++ "/".toList).isPrefixOf topicName).getD []

def demangleIfRosTopic (topicName : StdString) : StdString :=
  if getRosPrefixIfExists topicName ≠ [] then topicName.drop rosTopicPrefix.length
  else topicName

/-- The source compares the last character before anything else has shown that there is
one, which on the empty string is out of bounds; what it reads there changes no result. -/
def demangleIfRosType (ddsTypeString : StdString) : StdString :=
  let substring := "::msg::dds_::".toList
  match find substring ddsTypeString with
  | some substringPosition =>
    if ddsTypeString.getLast? = some '_' then
      let pkg := substr ddsTypeString 0 substringPosition
      let start := substringPosition + substring.length
      let typeName :=
        substr ddsTypeString start (sizeSub (sizeSub ddsTypeString.length 1) start)
      pkg ++ "/".toList ++ typeName
    else ddsTypeString
  | none => ddsTypeString

/-- The map `suffixes` of `_demangle_service_from_topic`. -/
def serviceSuffix (pre : StdString) : StdString :=
  if pre = rosServiceResponsePrefix then "Reply".toList
  else if pre = rosServiceRequesterPrefix then "Request".toList
  else []

def demangleServiceFromTopic (topicName : StdString) : StdString :=
  let pre := getRosPrefixIfExists topicName
  if pre = [] then []
  else if pre ∉ [rosServiceResponsePrefix, rosServiceRequesterPrefix] then []
  else
    match rfind (serviceSuffix pre) topicName with
    | none => []
    | some suffixPosition =>
      let serviceName := substr topicName 0 (suffixPosition + 1)
      let start := pre.length
      substr serviceName start (sizeSub (sizeSub serviceName.length 1) start)

/-- The loop over the suffixes of `_demangle_service_type_only`. A suffix found
before the end leaves its position behind and the search goes on. -/
def findTypeSuffix (ddsTypeName : StdString) : List StdString → Option Nat → Option Nat
  | [], suffixPosition => suffixPosition
  | suffix :: rest, _ =>
    match rfind suffix ddsTypeName with
    | none => findTypeSuffix ddsTypeName rest none
    | some suffixPosition =>
      if sizeSub (sizeSub ddsTypeName.length suffixPosition) suffix.length ≠ 0 then
        findTypeSuffix ddsTypeName rest (some suffixPosition)
      else some suffixPosition

def serviceNsSubstring : StdString := "::srv::dds_::".toList

def typeSuffixes : List StdString := ["_Response_".toList, "_Request_".toList]

def demangleServiceTypeOnly (ddsTypeName : StdString) : StdString :=
  match find serviceNsSubstring ddsTypeName with
  | none => []
  | some nsSubstringPosition =>
    match findTypeSuffix ddsTypeName typeSuffixes none with
    | none => []
    | some suffixPosition =>
      let pkg := substr ddsTypeName 0 nsSubstringPosition
      let start := nsSubstringPosition + serviceNsSubstring.length
      let typeName := substr ddsTypeName start (sizeSub suffixPosition start)
      pkg ++ "/".toList ++ typeName

/-- `DDSTopic::create_topic_name`; null arguments are `none`. -/
def createTopicName (topicName : Option StdString) (rmwQos : Option RmwQosProfile) :
    Except String StdString :=
  match topicName with
  | none | some [] => .error "topic_name is null or empty"
  | some name =>
    match rmwQos with
    | none => .error "rmw_qos is null"
    | some q => .ok (if q.avoidRosNamespaceConventions then name else rosTopicPrefix ++ name)

/-- The common body of `Service::create_request_name` and `create_reply_name`. -/
def createServiceTopicName (pre suffix name : StdString) (rmwQos : Option RmwQosProfile) :
    Except String StdString :=
  match rmwQos with
  | none => .error "rmw_qos is null"
  | some q => .ok ((if q.avoidRosNamespaceConventions then [] else pre) ++ name ++ suffix)

def createRequestName (name : StdString) (rmwQos : Option RmwQosProfile) :
    Except String StdString :=
  createServiceTopicName rosServiceRequesterPrefix "Request".toList name rmwQos

def createReplyName (name : StdString) (rmwQos : Option RmwQosProfile) :
    Except String StdString :=
  createServiceTopicName rosServiceResponsePrefix "Reply".toList name rmwQos

/-- `DDSTopic::create_type_name`, also `_create_type_name` -/
def createTypeName (messageNamespace messageName : StdString) : StdString :=
  messageNamespace ++ "::dds_::".toList ++ messageName ++ "_".toList

end RmwOpendds.Names
