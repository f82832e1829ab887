import ServiceContract.Specification.Quantity

/-!
# Agreed service levels

Templates of agreements: what is measured and promised, what a breach costs, and how often the
service may be called.
-/

namespace ServiceContract

/-- A value with an optional unit. -/
structure Measurement where
  value : Number
  unit : Option String
deriving DecidableEq

/-- A least, an intended and an optional best value. -/
structure LandingZone where
  minimal : Measurement
  target : Measurement
  best : Option Measurement
deriving DecidableEq

/-- What is promised for a quality goal. -/
inductive Promise where
  | simple (measurement : Measurement)
  | landingZone (zone : LandingZone)
deriving DecidableEq

/-- A promise about one quality goal. -/
structure QualityObjective where
  name : String
  goal : String
  promise : Promise
deriving DecidableEq

/-- A bound on calls or on data, and the interval it is counted over. -/
structure RateLimit where
  callRate : Option Measurement
  dataRate : Option Measurement
  interval : Option Measurement
deriving DecidableEq

structure Agreement where
  kind : String
  objectives : List QualityObjective
  penalties : Option String
  reporting : Option String
  ratePlan : Option String
  rateLimits : List RateLimit
deriving DecidableEq

/-- A named list of agreements. -/
structure AgreementTemplate where
  name : String
  agreements : List Agreement
deriving DecidableEq

end ServiceContract
