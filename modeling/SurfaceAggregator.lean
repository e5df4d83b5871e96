import SurfaceAggregator.CTypes
import SurfaceAggregator.Debug.Rqst
import SurfaceAggregator.Debug.Laws
import SurfaceAggregator.Debug.Session
import SurfaceAggregator.Debug.Concurrent
import SurfaceAggregator.Power.Battery
import SurfaceAggregator.Power.Cache
import SurfaceAggregator.Power.Property
import SurfaceAggregator.Power.Driver
import SurfaceAggregator.Power.Keeps
import SurfaceAggregator.Power.Lifecycle
import SurfaceAggregator.Power.Updates
import SurfaceAggregator.Power.Coherence
import SurfaceAggregator.Power.Requests
import SurfaceAggregator.Power.Objects
import SurfaceAggregator.Power.Interleaving
import SurfaceAggregator.Power.Adapter
import SurfaceAggregator.Thermal.Sensor
import SurfaceAggregator.Hwmon.Temp
