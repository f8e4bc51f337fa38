import KusciaGrant.GoValues
import KusciaGrant.Types
import KusciaGrant.Convert
import KusciaGrant.LabelSelector
import KusciaGrant.Store
import KusciaGrant.StoreEffect
import KusciaGrant.Prog
import KusciaGrant.Service
import KusciaGrant.BatchQuery
import KusciaGrant.Runs
import KusciaGrant.ErrorCodes
import KusciaGrant.System
import KusciaGrant.Invariant
import KusciaGrant.Lifetime
import KusciaGrant.ListGrants
import KusciaGrant.UpdateWrites
import KusciaGrant.Registry
import KusciaGrant.Views
