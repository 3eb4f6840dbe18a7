import MeridianS3.Adapter.Delete
import MeridianS3.Adapter.Put
import MeridianS3.Adapter.Read
import MeridianS3.Adapter.Registry

namespace MeridianS3

open Effect Json

-- A normalized operation with its input.
inductive Operation where
  | publishSchema (request : SchemaRequest)
  | createResource (request : ResourceRequest)
  | put (request : PutRequest)
  | get (resource : ResourceRef) (reference : Value)
  | stat (resource : ResourceRef) (reference : Value)
  | readRange (request : RangeRequest)
  | list (request : ListRequest)
  | delete (request : DeleteRequest)

inductive Outcome where
  | schema (result : SchemaResult)
  | resource (result : ResourceResult)
  | put (metadata : ObjectMetadata)
  | get (result : GetResult)
  | stat (metadata : ObjectMetadata)
  | readRange (result : RangeResult)
  | list (result : ListResult)
  | deleted (deleted : Bool)

namespace S3ObjectAdapter

variable (adapter : S3ObjectAdapter)

def execute : Operation → S3M Outcome
  | .publishSchema request => Outcome.schema <$> adapter.publishSchema request
  | .createResource request => Outcome.resource <$> adapter.createResource request
  | .put request => Outcome.put <$> adapter.put request
  | .get resource reference => Outcome.get <$> adapter.get resource reference
  | .stat resource reference =>
      (fun envelope => Outcome.stat envelope.metadata) <$> adapter.stat ⟨resource, reference, "stat"⟩
  | .readRange request => Outcome.readRange <$> adapter.readRange request
  | .list request => Outcome.list <$> adapter.list request
  | .delete request => Outcome.deleted <$> adapter.delete request

end S3ObjectAdapter

-- One operation of a run: the adapter that executes it, and the faults that strike it.
structure Step where
  adapter : S3ObjectAdapter
  operation : Operation
  plan : Plan Failure

def Step.run (provider : Provider) (step : Step) (bucket : Bucket) :
    Except Failure Outcome × Bucket :=
  (step.adapter.execute step.operation).runFaulty provider.handle step.plan bucket

-- The faults of a step that strike, each with its call.
def Step.struck (provider : Provider) (step : Step) (bucket : Bucket) :
    List (S3Call × Fault Failure) :=
  (step.adapter.execute step.operation).struck provider.handle step.plan bucket

-- Operations executed one after another.
def runSteps (provider : Provider) (bucket : Bucket) (steps : List Step) : Bucket :=
  steps.foldl (fun bucket step => (step.run provider bucket).2) bucket

theorem runSteps_append (provider : Provider) (bucket : Bucket) (first second : List Step) :
    runSteps provider bucket (first ++ second) =
      runSteps provider (runSteps provider bucket first) second := by
  simp [runSteps]

theorem runSteps_nil (provider : Provider) (bucket : Bucket) :
    runSteps provider bucket [] = bucket := rfl

theorem runSteps_cons (provider : Provider) (bucket : Bucket) (step : Step) (rest : List Step) :
    runSteps provider bucket (step :: rest) =
      runSteps provider (step.run provider bucket).2 rest := rfl

end MeridianS3
