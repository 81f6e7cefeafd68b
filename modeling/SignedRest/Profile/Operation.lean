/-
What is asked of a file of profiles. An operation gets an answer or an error, and a row of
operations leaves a record of both.
-/

import SignedRest.Profile.Store

namespace SignedRest.ProfileStore

inductive Operation where
  | list
  | get (name : String)
  | contains (name : String)
  | add (profile : Profile)
  | set (profile : Profile)
  | remove (name : String)
deriving DecidableEq, Inhabited

inductive Answer where
  | profiles (all : List Profile)
  | profile (found : Profile)
  | present (whether : Bool)
  | done
deriving DecidableEq, Inhabited

namespace Operation

/-- The name whose profile may change. -/
def subject? : Operation → Option String
  | list | get _ | contains _ => none
  | add profile | set profile => some profile.name
  | remove name => some name

/-- The profile to be written. -/
def profile? : Operation → Option Profile
  | add profile | set profile => some profile
  | list | get _ | contains _ | remove _ => none

def edit : Operation → List Profile → Result (List Profile)
  | list | get _ | contains _ => .ok
  | add profile => added profile
  | set profile => replaced profile
  | remove name => removed name

def perform (writer : ProfileList.Writer) : Operation → Work Answer
  | list => return .profiles (← Work.list)
  | get name => return .profile (← Work.get name)
  | contains name => return .present (← Work.contains name)
  | add profile => do
      Work.add writer profile
      return .done
  | set profile => do
      Work.set writer profile
      return .done
  | remove name => do
      Work.remove writer name
      return .done

end Operation

structure Event where
  operation : Operation
  answer : Result Answer

/-- Operations in a row: the events, and what is at the place in the end. -/
def run (writer : ProfileList.Writer) : List Operation → ProfileStore → List Event × ProfileStore
  | [], store => ([], store)
  | operation :: others, store =>
      let work := operation.perform writer
      let (events, last) := run writer others (work.after store)
      (⟨operation, work.answer store⟩ :: events, last)

end SignedRest.ProfileStore
