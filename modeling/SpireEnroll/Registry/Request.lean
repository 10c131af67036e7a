import SpireEnroll.Cluster.Context
import SpireEnroll.Identity
import SpireEnroll.Value.Basic

/-!
# Registration requests and entry responses

A request to the registry names a ServiceAccount, its cluster and trust domain, and
carries an optional credential; its body always has all five keys, the credential
as an empty text when there is none.

The registry answers a creation with an object whose `entryID` and `message` are
read as texts: a missing or falsy value gives the empty text, any other value its
display.
-/

namespace SpireEnroll

/-- The payload of an entry creation or deletion. -/
structure RegistrationRequest where
  trustDomain : String
  serviceAccount : String
  ns : String
  cluster : String
  kubeConfig : String
deriving DecidableEq, Repr, Inhabited

namespace RegistrationRequest

/-- The request for an object in a cluster, with a credential (possibly empty). -/
def build (ctx : ClusterContext) (o : Identity) (kubeConfig : String) : RegistrationRequest :=
  { trustDomain := ctx.trustDomain
    serviceAccount := o.name
    ns := o.ns
    cluster := ctx.clusterName
    kubeConfig := kubeConfig }

/-- The same request without its credential, as deletions send it. -/
def withoutCredential (r : RegistrationRequest) : RegistrationRequest :=
  { r with kubeConfig := "" }

/-- The JSON body of a request. -/
def body (r : RegistrationRequest) : Value :=
  .dict [("trustDomain", .str r.trustDomain), ("serviceAccount", .str r.serviceAccount),
    ("namespace", .str r.ns), ("cluster", .str r.cluster), ("kubeConfig", .str r.kubeConfig)]

end RegistrationRequest

/-- What a creation answer says. -/
structure EntryResponse where
  entryId : String
  message : String
deriving DecidableEq, Repr

def answerText (data : List (String × Value)) (key : String) : String :=
  match data.lookup key with
  | some v => if v.truthy then v.display else ""
  | none => ""

/-- Read a creation answer. -/
def EntryResponse.ofEntries (data : List (String × Value)) : EntryResponse :=
  ⟨answerText data "entryID", answerText data "message"⟩

end SpireEnroll
