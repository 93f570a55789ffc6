/-!
The services and components that the rules speak of.
-/

namespace ClusterAdvisor.Rules

def metron : String := "METRON"
def storm : String := "STORM"

def metronParsers : String := "METRON_PARSERS"
def metronEnrichment : String := "METRON_ENRICHMENT_MASTER"
def metronIndexing : String := "METRON_INDEXING"
def metronMysql : String := "METRON_ENRICHMENT_MYSQL_SERVER"

def kafkaBroker : String := "KAFKA_BROKER"
def supervisor : String := "SUPERVISOR"
def stormUi : String := "STORM_UI_SERVER"
def zookeeperClient : String := "ZOOKEEPER_CLIENT"
def hdfsClient : String := "HDFS_CLIENT"
def hbaseClient : String := "HBASE_CLIENT"

/-- Every component whose hosts the layout rules look at. -/
def layoutComponents : List String :=
  [metronParsers, metronEnrichment, metronIndexing, metronMysql, hbaseClient, hdfsClient,
    zookeeperClient, kafkaBroker, supervisor]

end ClusterAdvisor.Rules
